import ContentSource.Template
import ContentSource.Proofs.FormText

/-! # Placeholders in a text

How often a placeholder stands in a text, and what replacing another one does to that. A placeholder
begins with a percent sign that begins no escape, so it never begins inside form text; but it may
begin in front of form text and go on in it.
-/
namespace ContentSource.Template

variable {p q v xs ys cs : List Char} {c : Char}

def occurrences (p : List Char) : List Char → Nat
  | [] => 0
  | c :: cs => occurrences p cs + if p.isPrefixOf (c :: cs) then 1 else 0

theorem occurrences_of_begins (h : p <+: c :: cs) :
    occurrences p (c :: cs) = occurrences p cs + 1 := by
  rw [occurrences, if_pos (List.isPrefixOf_iff_prefix.mpr h)]

theorem occurrences_of_not_begins (h : ¬p <+: c :: cs) :
    occurrences p (c :: cs) = occurrences p cs := by
  rw [occurrences, if_neg (h ∘ List.isPrefixOf_iff_prefix.mp), Nat.add_zero]

theorem occurrences_le_cons (p : List Char) (c : Char) (cs : List Char) :
    occurrences p cs ≤ occurrences p (c :: cs) := Nat.le_add_right _ _

theorem occurrences_le_append (p xs cs : List Char) :
    occurrences p cs ≤ occurrences p (xs ++ cs) := by
  induction xs with
  | nil => exact Nat.le_refl _
  | cons c xs ih => exact Nat.le_trans ih (occurrences_le_cons p c _)

theorem occurrences_le_append_right (p xs cs : List Char) :
    occurrences p xs ≤ occurrences p (xs ++ cs) := by
  induction xs with
  | nil => exact Nat.zero_le _
  | cons c xs ih =>
    by_cases h : p <+: c :: xs
    · have hlonger : p <+: c :: (xs ++ cs) := h.trans (List.prefix_append (c :: xs) cs)
      rw [List.cons_append, occurrences_of_begins h, occurrences_of_begins hlonger]
      exact Nat.succ_le_succ ih
    · rw [occurrences_of_not_begins h]
      exact Nat.le_trans ih (occurrences_le_cons p c _)

theorem occurrences_eq_zero_iff (hp : p ≠ []) : occurrences p cs = 0 ↔ ¬p <:+: cs := by
  induction cs with
  | nil => simp [occurrences, hp]
  | cons c cs ih =>
    rw [List.infix_cons_iff, not_or, ← ih]
    by_cases h : p <+: c :: cs
    · simp [occurrences_of_begins h, h]
    · simp [occurrences_of_not_begins h, h]

/-! ## Replacing -/

theorem replaceFrom_skip (p v xs cs : List Char) :
    replaceFrom p v xs.length (xs ++ cs) = replaceFrom p v 0 cs := by
  induction xs with
  | nil => rfl
  | cons c xs ih => exact ih

theorem replaceFrom_append (hp : p ≠ []) (v cs : List Char) :
    replaceFrom p v 0 (p ++ cs) = v ++ replaceFrom p v 0 cs := by
  cases p with
  | nil => exact absurd rfl hp
  | cons c p =>
    have hbegins : (c :: p).isPrefixOf (c :: (p ++ cs)) = true :=
      List.isPrefixOf_iff_prefix.mpr (List.prefix_append (c :: p) cs)
    rw [List.cons_append, replaceFrom, if_pos hbegins, List.length_cons, Nat.add_sub_cancel,
      replaceFrom_skip]

theorem replaceFrom_of_not_begins (h : ¬p <+: c :: cs) (v : List Char) :
    replaceFrom p v 0 (c :: cs) = c :: replaceFrom p v 0 cs := by
  rw [replaceFrom, if_neg (h ∘ List.isPrefixOf_iff_prefix.mp)]

theorem replaceFrom_of_absent (h : ¬p <:+: cs) (v : List Char) :
    replaceFrom p v 0 cs = cs := by
  induction cs with
  | nil => rfl
  | cons c cs ih =>
    rw [List.infix_cons_iff, not_or] at h
    rw [replaceFrom_of_not_begins h.1, ih h.2]

/-! ## Where a pattern cannot begin -/

/-- A pattern begins nowhere in a text, whatever follows the text. -/
def Inert (p : List Char) : List Char → Prop
  | [] => True
  | c :: xs => (∀ cs, ¬p <+: c :: (xs ++ cs)) ∧ Inert p xs

theorem Inert.append (hx : Inert p xs) (hy : Inert p ys) : Inert p (xs ++ ys) := by
  induction xs with
  | nil => exact hy
  | cons c xs ih =>
    refine ⟨fun cs hbegins => hx.1 (ys ++ cs) ?_, ih hx.2⟩
    rwa [← List.append_assoc]

theorem Inert.occurrences_append (h : Inert p xs) (cs : List Char) :
    occurrences p (xs ++ cs) = occurrences p cs := by
  induction xs with
  | nil => rfl
  | cons c xs ih => rw [List.cons_append, occurrences_of_not_begins (h.1 cs), ih h.2]

theorem Inert.replaceFrom_append (h : Inert p xs) (v cs : List Char) :
    replaceFrom p v 0 (xs ++ cs) = xs ++ replaceFrom p v 0 cs := by
  induction xs with
  | nil => rfl
  | cons c xs ih =>
    rw [List.cons_append, replaceFrom_of_not_begins (h.1 cs), ih h.2, List.cons_append]

theorem Inert.infix_of_append (h : Inert p xs) (hwithin : p <:+: xs ++ cs) : p <:+: cs := by
  induction xs with
  | nil => exact hwithin
  | cons c xs ih =>
    rw [List.cons_append, List.infix_cons_iff] at hwithin
    exact ih h.2 (hwithin.resolve_left (h.1 cs))

theorem not_prefix_of_ne (h : c ≠ '%') (q cs : List Char) : ¬ '%' :: q <+: c :: cs := by
  rw [List.cons_prefix_cons]
  exact fun hbegins => h hbegins.1.symm

theorem inert_of_not_mem (h : '%' ∉ xs) (q : List Char) : Inert ('%' :: q) xs := by
  induction xs with
  | nil => trivial
  | cons c xs ih =>
    obtain ⟨hc, hxs⟩ := List.ne_and_not_mem_of_not_mem_cons h
    exact ⟨fun cs => not_prefix_of_ne hc.symm q _, ih hxs⟩

/-- A placeholder: a percent sign that begins no escape, and then no other percent sign. -/
structure IsMark (p : List Char) : Prop where
  starts : ∃ c cs, p = '%' :: c :: cs ∧ ∀ n < 16, FormText.hexDigit n ≠ c
  once : '%' ∉ p.tail

namespace IsMark

theorem ne_nil (hp : IsMark p) : p ≠ [] := by
  obtain ⟨c, cs, rfl, -⟩ := hp.starts
  exact List.cons_ne_nil _ _

theorem inert_of_not_mem (hp : IsMark p) (h : '%' ∉ xs) : Inert p xs := by
  obtain ⟨c, cs, rfl, -⟩ := hp.starts
  exact Template.inert_of_not_mem h _

/-- No placeholder begins in an escape. -/
theorem inert_escapeByte (hp : IsMark p) (b : UInt8) : Inert p (FormText.escapeByte b) := by
  have hb : b.toNat < 256 := b.toNat_lt
  have hdigit : ∀ n : Fin 16, '%' ≠ FormText.hexDigit n := by decide
  unfold FormText.escapeByte
  split
  · rename_i hplain
    obtain ⟨hlt, hpercent, -⟩ := FormText.isPlain_bounds hplain
    refine hp.inert_of_not_mem fun hmem => ?_
    have hnat := congrArg Char.toNat (List.mem_singleton.mp hmem).symm
    rw [Text.toNat_char (by omega)] at hnat
    exact hpercent (UInt8.toNat_inj.mp hnat)
  · split
    · exact hp.inert_of_not_mem (by decide)
    · refine ⟨fun cs hbegins => ?_, hp.inert_of_not_mem ?_⟩
      · obtain ⟨c, ds, rfl, hc⟩ := hp.starts
        simp only [List.cons_append, List.cons_prefix_cons] at hbegins
        exact hc (b.toNat / 16) (by omega) hbegins.2.1.symm
      · have hhigh := hdigit ⟨b.toNat / 16, by omega⟩
        have hlow := hdigit ⟨b.toNat % 16, by omega⟩
        simp [hhigh, hlow]

/-- No placeholder begins in form text. -/
theorem inert_escapeBytes (hp : IsMark p) (bs : List UInt8) :
    Inert p (FormText.escapeBytes bs) := by
  induction bs with
  | nil => trivial
  | cons b bs ih => exact (hp.inert_escapeByte b).append ih

/-! ## Texts divided in front of a percent sign -/

theorem prefix_append_percent (h : '%' ∉ q) (xs cs : List Char) :
    q <+: xs ++ '%' :: cs ↔ q <+: xs := by
  induction q generalizing xs with
  | nil => simp
  | cons c q ih =>
    obtain ⟨hc, hq⟩ := List.ne_and_not_mem_of_not_mem_cons h
    cases xs with
    | nil => simp [hc.symm]
    | cons x xs => rw [List.cons_append, List.cons_prefix_cons, List.cons_prefix_cons, ih hq]

/-- A placeholder that begins in front of a percent sign also ends there. -/
theorem prefix_cons_append_percent (hp : IsMark p) (c : Char) (xs cs : List Char) :
    p <+: c :: (xs ++ '%' :: cs) ↔ p <+: c :: xs := by
  obtain ⟨d, ds, rfl, -⟩ := hp.starts
  have htail := prefix_append_percent hp.once xs cs
  rw [List.tail_cons] at htail
  rw [List.cons_prefix_cons, List.cons_prefix_cons, htail]

theorem occurrences_append_percent (hp : IsMark p) (xs cs : List Char) :
    occurrences p (xs ++ '%' :: cs) = occurrences p xs + occurrences p ('%' :: cs) := by
  induction xs with
  | nil => exact (Nat.zero_add _).symm
  | cons c xs ih =>
    have hsame := hp.prefix_cons_append_percent c xs cs
    rw [List.cons_append]
    by_cases h : p <+: c :: xs
    · rw [occurrences_of_begins (hsame.mpr h), occurrences_of_begins h, ih]
      omega
    · rw [occurrences_of_not_begins (h ∘ hsame.mp), occurrences_of_not_begins h, ih]

theorem replaceFrom_append_percent (hp : IsMark p) (v xs cs : List Char) :
    replaceFrom p v 0 (xs ++ '%' :: cs) =
      replaceFrom p v 0 xs ++ replaceFrom p v 0 ('%' :: cs) := by
  -- The characters to be skipped belong to a placeholder that ends in front of the percent sign.
  suffices hskip : ∀ k ≤ xs.length, replaceFrom p v k (xs ++ '%' :: cs) =
      replaceFrom p v k xs ++ replaceFrom p v 0 ('%' :: cs) from hskip 0 (Nat.zero_le _)
  induction xs with
  | nil =>
    intro k hk
    obtain rfl := Nat.le_zero.mp hk
    rfl
  | cons c xs ih =>
    rintro (_ | k) hk
    · have hsame := hp.prefix_cons_append_percent c xs cs
      rw [List.cons_append]
      by_cases h : p <+: c :: xs
      · have hlength := h.length_le
        rw [List.length_cons] at hlength
        rw [replaceFrom, if_pos (List.isPrefixOf_iff_prefix.mpr (hsame.mpr h)), replaceFrom,
          if_pos (List.isPrefixOf_iff_prefix.mpr h), ih _ (by omega), List.append_assoc]
      · rw [replaceFrom_of_not_begins (h ∘ hsame.mp), replaceFrom_of_not_begins h,
          ih 0 (Nat.zero_le _), List.cons_append]
    · exact ih k (Nat.le_of_succ_le_succ hk)

end IsMark

end ContentSource.Template
