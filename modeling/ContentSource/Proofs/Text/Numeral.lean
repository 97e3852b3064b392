import ContentSource.Text.Numeral

/-! # What numerals spell

A run of ASCII digits is a numeral of exactly one number: zeros, as many as there are, and then the
digits of that number.
-/
namespace ContentSource.Text

/-- Digits that spell a number, perhaps with zeros in front. -/
def Spells (cs : List Char) (n : Nat) : Prop :=
  ∃ zeros, cs = List.replicate zeros '0' ++ Nat.toDigits 10 n

theorem digitsValue_eq (cs : List Char) : digitsValue cs = Nat.ofDigitChars 10 cs 0 := by
  simp [digitsValue, Nat.ofDigitChars_eq_foldl, Nat.mul_comm]

theorem toDigits_of_isDigit {c : Char} (hc : c.isDigit = true) :
    c.toNat - 48 < 10 ∧ Nat.toDigits 10 (c.toNat - 48) = [c] := by
  have hrange : 48 ≤ c.toNat ∧ c.toNat ≤ 57 := Char.isDigit_iff_toNat.mp hc
  have hlt : c.toNat - 48 < 10 := by omega
  have hself : Nat.digitChar (c.toNat - 48) = c := by
    rw [← Char.toNat_inj, Nat.toNat_digitChar_of_lt_ten hlt]
    omega
  exact ⟨hlt, by rw [Nat.toDigits_of_lt_base hlt, hself]⟩

/-- More digits behind a number that is not zero are digits of the number they make with it. -/
theorem toDigits_ofDigitChars {cs : List Char} {n : Nat} (hn : 0 < n)
    (hcs : ∀ c ∈ cs, c.isDigit = true) :
    Nat.toDigits 10 (Nat.ofDigitChars 10 cs n) = Nat.toDigits 10 n ++ cs := by
  induction cs generalizing n with
  | nil => simp
  | cons c cs ih =>
    obtain ⟨hc, hcs⟩ := List.forall_mem_cons.mp hcs
    obtain ⟨hlt, hself⟩ := toDigits_of_isDigit hc
    rw [Nat.ofDigitChars_cons, ih (by omega) hcs]
    change Nat.toDigits 10 (10 * n + (c.toNat - 48)) ++ cs = _
    rw [← Nat.toDigits_append_toDigits (by decide) hn hlt, hself, List.append_assoc]
    rfl

theorem spells_ofDigitChars {cs : List Char} (hne : cs ≠ [])
    (hcs : ∀ c ∈ cs, c.isDigit = true) : Spells cs (Nat.ofDigitChars 10 cs 0) := by
  induction cs with
  | nil => exact absurd rfl hne
  | cons c rest ih =>
    obtain ⟨hc, hrest⟩ := List.forall_mem_cons.mp hcs
    obtain ⟨-, hself⟩ := toDigits_of_isDigit hc
    rw [Nat.ofDigitChars_cons]
    change Spells (c :: rest) (Nat.ofDigitChars 10 rest (10 * 0 + (c.toNat - 48)))
    rw [Nat.mul_zero, Nat.zero_add]
    rcases Nat.eq_zero_or_pos (c.toNat - 48) with hzero | hpos
    · -- a zero in front adds nothing, unless it is the only digit
      obtain rfl : c = '0' := by simpa [hzero] using hself.symm
      cases rest with
      | nil => exact ⟨0, rfl⟩
      | cons d rest =>
        obtain ⟨zeros, hzeros⟩ := ih (List.cons_ne_nil d rest) hrest
        exact ⟨zeros + 1, congrArg ('0' :: ·) hzeros⟩
    · exact ⟨0, by rw [toDigits_ofDigitChars hpos hrest, hself]; rfl⟩

theorem Spells.ofDigitChars {cs : List Char} {n : Nat} (h : Spells cs n) :
    Nat.ofDigitChars 10 cs 0 = n := by
  obtain ⟨zeros, rfl⟩ := h
  rw [Nat.ofDigitChars_append, Nat.ofDigitChars_replicate_zero, Nat.mul_zero,
    Nat.ofDigitChars_ten_toDigits]

theorem Spells.isDigit {cs : List Char} {n : Nat} (h : Spells cs n) :
    ∀ c ∈ cs, c.isDigit = true := by
  obtain ⟨zeros, rfl⟩ := h
  intro c hc
  rcases List.mem_append.mp hc with hc | hc
  · rw [List.eq_of_mem_replicate hc]
    rfl
  · exact Nat.isDigit_of_mem_toDigits (by decide) (by decide) hc

theorem Spells.ne_nil {cs : List Char} {n : Nat} (h : Spells cs n) : cs ≠ [] := by
  obtain ⟨zeros, rfl⟩ := h
  simp [Nat.toDigits_ne_nil]

/-- The texts that are read as a number are those that spell it. -/
theorem readDigits?_eq_some_iff {cs : List Char} {n : Nat} :
    readDigits? cs = some n ↔ Spells cs n := by
  have hread : readDigits? cs = some n ↔
      (cs ≠ [] ∧ ∀ c ∈ cs, c.isDigit = true) ∧ Nat.ofDigitChars 10 cs 0 = n := by
    simp [readDigits?, digitsValue_eq, and_assoc]
  rw [hread]
  constructor
  · rintro ⟨⟨hne, hcs⟩, rfl⟩
    exact spells_ofDigitChars hne hcs
  · intro h
    exact ⟨⟨h.ne_nil, h.isDigit⟩, h.ofDigitChars⟩

end ContentSource.Text
