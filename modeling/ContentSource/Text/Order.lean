/-! # The order of texts

Texts are ordered by the code points of their characters, and a text comes before its extensions.
The main statements say that this is a strict total order.
-/
namespace ContentSource.Text

def charsPrecede : List Char → List Char → Bool
  | _, [] => false
  | [], _ :: _ => true
  | a :: as, b :: bs => decide (a.toNat < b.toNat) || (a.toNat == b.toNat && charsPrecede as bs)

def precedes (s t : String) : Bool := charsPrecede s.toList t.toList

theorem charsPrecede_trans {as bs cs : List Char} (h : charsPrecede as bs)
    (k : charsPrecede bs cs) : charsPrecede as cs := by
  induction as generalizing bs cs with
  | nil => cases bs <;> cases cs <;> simp_all [charsPrecede]
  | cons a as ih =>
    cases bs with
    | nil => simp [charsPrecede] at h
    | cons b bs =>
      cases cs with
      | nil => simp [charsPrecede] at k
      | cons c cs =>
        simp only [charsPrecede, Bool.or_eq_true, Bool.and_eq_true, decide_eq_true_eq,
          beq_iff_eq] at h k ⊢
        rcases h with h | ⟨h, ht⟩ <;> rcases k with k | ⟨k, kt⟩
        · exact Or.inl (by omega)
        · exact Or.inl (by omega)
        · exact Or.inl (by omega)
        · exact Or.inr ⟨by omega, ih ht kt⟩

theorem eq_of_not_charsPrecede {as bs : List Char} (h : ¬charsPrecede as bs)
    (k : ¬charsPrecede bs as) : as = bs := by
  induction as generalizing bs with
  | nil => cases bs <;> simp_all [charsPrecede]
  | cons a as ih =>
    cases bs with
    | nil => simp [charsPrecede] at k
    | cons b bs =>
      simp only [charsPrecede, Bool.or_eq_true, Bool.and_eq_true, decide_eq_true_eq, beq_iff_eq,
        not_or, not_and] at h k
      have hab : a.toNat = b.toNat := by omega
      obtain rfl : a = b := Char.toNat_inj.mp hab
      rw [ih (h.2 rfl) (k.2 rfl)]

theorem not_charsPrecede_self (as : List Char) : ¬charsPrecede as as := by
  induction as with
  | nil => simp [charsPrecede]
  | cons a as ih => simpa [charsPrecede] using ih

theorem precedes_trans {s t u : String} (h : precedes s t) (k : precedes t u) : precedes s u :=
  charsPrecede_trans h k

theorem not_precedes_self (s : String) : ¬precedes s s := not_charsPrecede_self s.toList

theorem eq_of_not_precedes {s t : String} (h : ¬precedes s t) (k : ¬precedes t s) : s = t :=
  String.toList_inj.mp (eq_of_not_charsPrecede h k)

/-- Of two texts that differ, one comes first. -/
theorem precedes_of_ne {s t : String} (h : ¬precedes s t) (hne : s ≠ t) : precedes t s := by
  cases k : precedes t s with
  | true => rfl
  | false => exact absurd (eq_of_not_precedes h (by simp [k])) hne

end ContentSource.Text
