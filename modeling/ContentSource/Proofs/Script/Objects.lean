import ContentSource.Proofs.Text.Utf16
import ContentSource.Script.Access

/-! # Properties of an object itself

The properties that an object has of its own, and the names of the enumerable ones in the order in
which they are listed. Every property is listed, an index as the numeral that spells it.
-/
namespace ContentSource.Script

open Text (Units unitsOfChar)

/-! ## Indices -/

namespace Key

/-- The digits of a number are those that it was read from, where the first is not zero. -/
theorem toDigits_foldl (us : List UInt16) {n : Nat} (hn : 0 < n)
    (hus : ∀ u ∈ us, 0x30 ≤ u.toNat ∧ u.toNat ≤ 0x39) :
    Nat.toDigits 10 (us.foldl (fun n u => n * 10 + (u.toNat - 0x30)) n) =
      Nat.toDigits 10 n ++ us.map fun u => Nat.digitChar (u.toNat - 0x30) := by
  induction us generalizing n with
  | nil => simp
  | cons u us ih =>
    obtain ⟨hu, hus⟩ := List.forall_mem_cons.mp hus
    have hdiv : (n * 10 + (u.toNat - 0x30)) / 10 = n := by omega
    have hmod : (n * 10 + (u.toNat - 0x30)) % 10 = u.toNat - 0x30 := by omega
    rw [List.foldl_cons, ih (by omega) hus, Nat.toDigits_of_base_le (by omega) (by omega), hdiv,
      hmod]
    simp

theorem unitsOfChar_digitChar {u : UInt16} (h : 0x30 ≤ u.toNat ∧ u.toNat ≤ 0x39) :
    unitsOfChar (Nat.digitChar (u.toNat - 0x30)) = [u] := by
  have hall : ∀ d < 10, unitsOfChar (Nat.digitChar d) = [UInt16.ofNat (0x30 + d)] := by decide
  rw [hall _ (by omega), Nat.add_sub_cancel' h.1, UInt16.ofNat_toNat]

theorem flatMap_digitChar {us : List UInt16}
    (hus : ∀ u ∈ us, 0x30 ≤ u.toNat ∧ u.toNat ≤ 0x39) :
    (us.map fun u => Nat.digitChar (u.toNat - 0x30)).flatMap unitsOfChar = us := by
  induction us with
  | nil => rfl
  | cons u us ih =>
    obtain ⟨hu, hus⟩ := List.forall_mem_cons.mp hus
    rw [List.map_cons, List.flatMap_cons, unitsOfChar_digitChar hu, ih hus, List.singleton_append]

/-- A key that spells an index is the numeral of that index. -/
theorem ofNat_of_index? {k : Key} {i : Nat} (h : k.index? = some i) : ofNat i = k := by
  cases k with
  | symbol id => cases h
  | name s =>
    simp only [index?, Bool.or_eq_true, List.isEmpty_iff, Bool.not_eq_true', Bool.and_eq_true,
      decide_eq_true_eq, beq_iff_eq] at h
    split at h
    · cases h
    rename_i hdigits
    split at h
    · cases h
    rename_i hzero
    simp only [not_or, Bool.not_eq_false, List.all_eq_true, Bool.and_eq_true, decide_eq_true_eq,
      UInt16.le_iff_toNat_le, UInt16.reduceToNat] at hdigits
    obtain ⟨⟨hne, -⟩, hdigits⟩ := hdigits
    have hvalue : i = s.toArray.toList.foldl (fun n u => n * 10 + (u.toNat - 0x30)) 0 := by
      simpa using (Option.ite_none_right_eq_some.mp h).2.symm
    have hspelled : Nat.toDigits 10 i =
        s.toArray.toList.map fun u => Nat.digitChar (u.toNat - 0x30) := by
      rw [hvalue]
      -- The first digit is the accumulator that `toDigits_foldl` wants to be positive.
      cases hus : s.toArray.toList with
      | nil => exact absurd hus hne
      | cons u us =>
        rw [hus] at hdigits hzero
        obtain ⟨hu, hdigits⟩ := List.forall_mem_cons.mp hdigits
        rw [List.foldl_cons, Nat.zero_mul, Nat.zero_add]
        cases us with
        | nil => simp [Nat.toDigits_of_lt_base (show u.toNat - 0x30 < 10 by omega)]
        | cons v us =>
          have hlead : u.toNat ≠ 0x30 := by
            intro hu
            refine hzero ⟨by simp, ?_⟩
            simp [← UInt16.toNat_inj, hu]
          rw [toDigits_foldl _ (by omega) hdigits,
            Nat.toDigits_of_lt_base (show u.toNat - 0x30 < 10 by omega)]
          rfl
    have hchars : (toString i).toList = Nat.toDigits 10 i := by simp
    simp only [ofNat, ofString, Units.ofString, Units.ofChars, hchars, hspelled,
      flatMap_digitChar hdigits]

@[simp] theorem ofString_inj {s t : String} : ofString s = ofString t ↔ s = t := by
  simp [ofString]

end Key

/-! ## Keys and properties -/

namespace Object

variable {o : Object} {k l : Key} {p : Property}

theorem isSome_find?_iff : (o.find? k).isSome = true ↔ k ∈ o.props.toList.map Prod.fst := by
  simp [find?]

/-- Every property is listed, whatever kind of key it has. -/
theorem mem_keys_iff : k ∈ o.keys ↔ (o.find? k).isSome = true := by
  rw [isSome_find?_iff]
  have hindices : ∀ i, i ∈ ((o.props.toList.map Prod.fst).filterMap Key.index?).mergeSort ↔
      ∃ l ∈ o.props.toList.map Prod.fst, l.index? = some i := by
    intro i
    rw [(List.mergeSort_perm _ _).mem_iff, List.mem_filterMap]
  simp only [keys]
  generalize o.props.toList.map Prod.fst = all at hindices ⊢
  simp only [List.mem_append, List.mem_map, hindices]
  constructor
  · rintro ((⟨i, ⟨l, hl, hi⟩, rfl⟩ | hname) | hsymbol)
    · rwa [Key.ofNat_of_index? hi]
    · exact (List.mem_filter.mp hname).1
    · exact (List.mem_filter.mp hsymbol).1
  · intro h
    cases hi : k.index? with
    | some i => exact .inl (.inl ⟨i, ⟨k, h, hi⟩, Key.ofNat_of_index? hi⟩)
    | none =>
      cases k with
      | name s => exact .inl (.inr (List.mem_filter.mpr ⟨h, by simp [hi]⟩))
      | symbol id => exact .inr (List.mem_filter.mpr ⟨h, rfl⟩)

/-- The properties of an object itself; a boxed string has its characters and length besides. -/
def own? (o : Object) (k : Key) : Option Property :=
  match o.cls with
  | .boxed (.string s) => (Run.stringProperty? s k).or (o.find? k)
  | _ => o.find? k

def ownKeys (o : Object) : List Key :=
  match o.cls with
  | .boxed (.string s) =>
    (List.range s.size).map Key.ofNat ++ [Run.lengthKey] ++ o.keys
  | _ => o.keys

theorem mem_ownKeys_of_own? (h : o.own? k = some p) : k ∈ o.ownKeys := by
  have hfound : o.find? k = some p → k ∈ o.keys := fun hk => mem_keys_iff.mpr (by simp [hk])
  unfold own? at h
  unfold ownKeys
  split at h
  · rename_i s _
    simp only [List.mem_append, List.mem_map, List.mem_range, List.mem_singleton]
    rcases Option.or_eq_some_iff.mp h with hs | ⟨-, hk⟩
    · simp only [Run.stringProperty?] at hs
      split at hs
      · rename_i hlength
        exact .inl (.inr hlength)
      · split at hs
        · rename_i i hi
          exact .inl (.inl ⟨i, (Option.ite_none_right_eq_some.mp hs).1, Key.ofNat_of_index? hi⟩)
        · cases hs
    · exact .inr (hfound hk)
  · exact hfound h

def nameOf? (o : Object) : Key → Option Units
  | .symbol _ => none
  | .name s => if ((o.own? (.name s)).map Property.enumerable).getD false then some s else none

def names (o : Object) : List Units := o.ownKeys.filterMap o.nameOf?

theorem mem_names_iff {u : Units} :
    u ∈ o.names ↔ ∃ p, o.own? (.name u) = some p ∧ p.enumerable = true := by
  rw [names, List.mem_filterMap]
  constructor
  · rintro ⟨k, -, hk⟩
    cases k with
    | symbol id => cases hk
    | name s =>
      obtain ⟨henumerable, rfl⟩ := Option.ite_some_none_eq_some.mp hk
      cases hown : o.own? (.name s) with
      | none => simp [hown] at henumerable
      | some p => exact ⟨p, rfl, by simpa [hown] using henumerable⟩
  · rintro ⟨p, hown, henumerable⟩
    exact ⟨.name u, mem_ownKeys_of_own? hown, by simp [nameOf?, hown, henumerable]⟩

/-- A new property stands behind those that were there before. -/
theorem put_of_find?_eq_none (h : o.find? k = none) :
    o.put k p = { o with props := o.props.push (k, p) } := by
  have habsent : o.props.findIdx? (fun q => q.1 == k) = none := by
    simpa [find?] using h
  rw [put, habsent]

end Object

end ContentSource.Script
