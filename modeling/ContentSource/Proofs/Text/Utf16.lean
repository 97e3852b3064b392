import ContentSource.Proofs.Text.Utf8
import ContentSource.Text.Utf16

/-! # Texts and their code units

A text and its code units determine each other: the units of a text read back as that text, and a
sequence of units that is a text has the units of that text.
-/
namespace ContentSource.Text

variable {c : Char} {u v : UInt16} {us : List UInt16} {cs : List Char}

theorem isHighHalf_iff : isHighHalf u = true ↔ 0xD800 ≤ u.toNat ∧ u.toNat < 0xDC00 := by
  simp [isHighHalf, UInt16.le_iff_toNat_le, UInt16.lt_iff_toNat_lt]

theorem isLowHalf_iff : isLowHalf u = true ↔ 0xDC00 ≤ u.toNat ∧ u.toNat < 0xE000 := by
  simp [isLowHalf, UInt16.le_iff_toNat_le, UInt16.lt_iff_toNat_lt]

theorem toNat_unit {n : Nat} (h : n < 0x10000) : (UInt16.ofNat n).toNat = n := by
  rw [UInt16.toNat_ofNat']
  exact Nat.mod_eq_of_lt h

theorem toNat_char {n : Nat} (h : n < 0xD800 ∨ 0xDFFF < n ∧ n < 0x110000) :
    (Char.ofNat n).toNat = n := by
  rw [Char.ofNat, dif_pos h]
  rfl

/-- A unit that is no half is one character, whatever stands behind it. -/
theorem charsOfUnits_unit (h : isHighHalf u = false) (h' : isLowHalf u = false)
    (rest : List UInt16) :
    charsOfUnits (u :: rest) = .inl (Char.ofNat u.toNat) :: charsOfUnits rest := by
  cases rest <;> simp [charsOfUnits, charOfUnit, h, h']

theorem charsOfUnits_halves (h : isHighHalf u = true) (h' : isLowHalf v = true)
    (rest : List UInt16) :
    charsOfUnits (u :: v :: rest) = .inl (charOfHalves u v) :: charsOfUnits rest := by
  simp [charsOfUnits, h, h']

/-! ## From texts to units -/

theorem charsOfUnits_unitsOfChar (c : Char) (rest : List UInt16) :
    charsOfUnits (unitsOfChar c ++ rest) = .inl c :: charsOfUnits rest := by
  have hvalid := Utf8.toNat_valid c
  by_cases hsmall : c.toNat < 0x10000
  · have hu := toNat_unit hsmall
    have hhigh : isHighHalf (UInt16.ofNat c.toNat) = false := by
      rw [← Bool.not_eq_true, isHighHalf_iff, hu]
      omega
    have hlow : isLowHalf (UInt16.ofNat c.toNat) = false := by
      rw [← Bool.not_eq_true, isLowHalf_iff, hu]
      omega
    simp only [unitsOfChar, if_pos hsmall, List.cons_append, List.nil_append]
    rw [charsOfUnits_unit hhigh hlow, hu, Char.ofNat_toNat]
  · have hu := toNat_unit (n := 0xD800 + (c.toNat - 0x10000) / 1024) (by omega)
    have hv := toNat_unit (n := 0xDC00 + (c.toNat - 0x10000) % 1024) (by omega)
    have hhigh := isHighHalf_iff.mpr (by rw [hu]; omega)
    have hlow := isLowHalf_iff.mpr (by rw [hv]; omega)
    have hchar : charOfHalves (UInt16.ofNat (0xD800 + (c.toNat - 0x10000) / 1024))
        (UInt16.ofNat (0xDC00 + (c.toNat - 0x10000) % 1024)) = c := by
      have hback : 0x10000 + (0xD800 + (c.toNat - 0x10000) / 1024 - 0xD800) * 1024 +
          (0xDC00 + (c.toNat - 0x10000) % 1024 - 0xDC00) = c.toNat := by omega
      rw [charOfHalves, hu, hv, hback, Char.ofNat_toNat]
    simp only [unitsOfChar, if_neg hsmall, List.cons_append, List.nil_append]
    rw [charsOfUnits_halves hhigh hlow, hchar]

theorem charsOfUnits_flatMap (cs : List Char) :
    charsOfUnits (cs.flatMap unitsOfChar) = cs.map .inl := by
  induction cs with
  | nil => rfl
  | cons c cs ih => rw [List.flatMap_cons, charsOfUnits_unitsOfChar, ih, List.map_cons]

/-! ## From units to texts -/

theorem unitsOfChar_of_unit (h : isHighHalf u = false) (h' : isLowHalf u = false) :
    unitsOfChar (Char.ofNat u.toNat) = [u] := by
  rw [← Bool.not_eq_true, isHighHalf_iff] at h
  rw [← Bool.not_eq_true, isLowHalf_iff] at h'
  have hlt : u.toNat < 0x10000 := u.toNat_lt
  have hn : (Char.ofNat u.toNat).toNat = u.toNat := toNat_char (by omega)
  rw [unitsOfChar, hn, if_pos hlt, UInt16.ofNat_toNat]

theorem unitsOfChar_of_halves (h : isHighHalf u = true) (h' : isLowHalf v = true) :
    unitsOfChar (charOfHalves u v) = [u, v] := by
  rw [isHighHalf_iff] at h
  rw [isLowHalf_iff] at h'
  have hn : (charOfHalves u v).toNat =
      0x10000 + (u.toNat - 0xD800) * 1024 + (v.toNat - 0xDC00) := toNat_char (by omega)
  have hu : 0xD800 + ((charOfHalves u v).toNat - 0x10000) / 1024 = u.toNat := by omega
  have hv : 0xDC00 + ((charOfHalves u v).toNat - 0x10000) % 1024 = v.toNat := by omega
  simp only [unitsOfChar]
  rw [if_neg (by omega), hu, hv, UInt16.ofNat_toNat, UInt16.ofNat_toNat]

/-- The induction goes along the reading of the units: two units are taken at a time where they are
the halves of a character. -/
theorem eq_flatMap_of_charsOfUnits (h : charsOfUnits us = cs.map .inl) :
    us = cs.flatMap unitsOfChar := by
  induction us using charsOfUnits.induct generalizing cs with
  | case1 =>
    cases cs with
    | nil => rfl
    | cons c cs => cases h
  | case2 u =>
    simp only [charsOfUnits, charOfUnit] at h
    split at h
    · cases cs <;> simp at h
    · rename_i hhalf
      simp only [Bool.or_eq_true, not_or, Bool.not_eq_true] at hhalf
      cases cs with
      | nil => simp at h
      | cons c cs =>
        simp only [List.map_cons, List.cons.injEq, Sum.inl.injEq, List.nil_eq,
          List.map_eq_nil_iff] at h
        obtain ⟨rfl, rfl⟩ := h
        rw [List.flatMap_cons, unitsOfChar_of_unit hhalf.1 hhalf.2]
        rfl
  | case3 u v rest hpair ih =>
    simp only [Bool.and_eq_true] at hpair
    rw [charsOfUnits_halves hpair.1 hpair.2] at h
    cases cs with
    | nil => simp at h
    | cons c cs =>
      simp only [List.map_cons, List.cons.injEq, Sum.inl.injEq] at h
      obtain ⟨rfl, h⟩ := h
      rw [List.flatMap_cons, unitsOfChar_of_halves hpair.1 hpair.2, ← ih h]
      rfl
  | case4 u v rest hpair ih =>
    simp only [charsOfUnits, if_neg hpair, charOfUnit] at h
    split at h
    · cases cs <;> simp at h
    · rename_i hhalf
      simp only [Bool.or_eq_true, not_or, Bool.not_eq_true] at hhalf
      cases cs with
      | nil => simp at h
      | cons c cs =>
        simp only [List.map_cons, List.cons.injEq, Sum.inl.injEq] at h
        obtain ⟨rfl, h⟩ := h
        rw [List.flatMap_cons, unitsOfChar_of_unit hhalf.1 hhalf.2, ← ih h]
        rfl

namespace Units

variable {u : Units} {s : String}

/-- Reading a text stops at the first half that stands alone. -/
theorem go_eq_ok_iff {bytes : Nat} {done : List Char} {xs : List (Char ⊕ UInt16)} :
    toString.go bytes done xs = .ok s ↔
      ∃ cs, xs = cs.map .inl ∧ s = String.ofList (done.reverse ++ cs) := by
  induction xs generalizing bytes done with
  | nil =>
    simp only [toString.go, Except.ok.injEq, List.nil_eq, List.map_eq_nil_iff]
    constructor
    · rintro rfl
      exact ⟨[], rfl, by simp⟩
    · rintro ⟨cs, rfl, rfl⟩
      simp
  | cons x xs ih =>
    cases x with
    | inl c =>
      rw [toString.go, ih]
      constructor
      · rintro ⟨cs, rfl, rfl⟩
        exact ⟨c :: cs, rfl, by simp⟩
      · rintro ⟨cs, hcs, rfl⟩
        cases cs with
        | nil => cases hcs
        | cons d cs =>
          simp only [List.map_cons, List.cons.injEq, Sum.inl.injEq] at hcs
          obtain ⟨rfl, rfl⟩ := hcs
          exact ⟨cs, rfl, by simp⟩
    | inr v =>
      simp only [toString.go, reduceCtorEq, false_iff, not_exists, not_and]
      intro cs hcs
      cases cs <;> cases hcs

/-- What is a text are the units of that text, and nothing else. -/
theorem toString_eq_ok_iff : u.toString = .ok s ↔ u = ofString s := by
  rw [toString, go_eq_ok_iff]
  constructor
  · rintro ⟨cs, hcs, rfl⟩
    have hunits := eq_flatMap_of_charsOfUnits hcs
    cases u
    simp [ofString, ofChars, ← hunits]
  · rintro rfl
    exact ⟨s.toList, by simp [ofString, ofChars, charsOfUnits_flatMap], by simp⟩

@[simp] theorem toString_ofString (s : String) : (ofString s).toString = .ok s :=
  toString_eq_ok_iff.mpr rfl

@[simp] theorem ofString_inj {t : String} : ofString s = ofString t ↔ s = t := by
  constructor
  · intro h
    have hread := toString_ofString s
    rw [h, toString_ofString] at hread
    exact (Except.ok.inj hread).symm
  · rintro rfl
    rfl

end Units

end ContentSource.Text
