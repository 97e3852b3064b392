import ContentSource.Proofs.Template.Passes

/-! # Texts that are their own templates

A text that is expanded as a template with itself as the input stays as it is exactly when it has no
placeholder. An `%input` in it cannot come back: its place is taken by form text, which escapes
every percent sign of the text, and neither pass undoes an escape.
-/
namespace ContentSource.Template

variable {v d cs : List Char} {c : Char}

def percentEscape : List Char := ['%', '2', '5']

theorem inert_escape_input : Inert percentEscape inputMark :=
  ⟨fun cs => by simp [percentEscape], inert_of_not_mem (by decide) _⟩

theorem inert_escape_page : Inert percentEscape pageMark :=
  ⟨fun cs => by simp [percentEscape], inert_of_not_mem (by decide) _⟩

/-- The second pass keeps every escape of a percent sign. -/
theorem occurrences_escape_le (d cs : List Char) :
    occurrences percentEscape cs ≤ occurrences percentEscape (replaceFrom pageMark d 0 cs) := by
  induction cs using marks_induction with
  | nil => exact Nat.le_refl _
  | input cs ih =>
    rwa [inert_page_input.replaceFrom_append, inert_escape_input.occurrences_append,
      inert_escape_input.occurrences_append]
  | page cs ih =>
    rw [replaceFrom_append isMark_page.ne_nil, inert_escape_page.occurrences_append]
    exact Nat.le_trans ih (occurrences_le_append _ _ _)
  | char c cs _ hpage ih =>
    rw [replaceFrom_of_not_begins hpage]
    by_cases h : percentEscape <+: c :: cs
    · have hkept : percentEscape <+: c :: replaceFrom pageMark d 0 cs := by
        obtain ⟨rest, hrest⟩ := h
        obtain ⟨rfl, rfl⟩ := List.cons.inj hrest
        have hdigits : Inert pageMark ['2', '5'] := isMark_page.inert_of_not_mem (by decide)
        exact ⟨_, congrArg ('%' :: ·) (hdigits.replaceFrom_append d rest).symm⟩
      rw [occurrences_of_begins h, occurrences_of_begins hkept]
      exact Nat.succ_le_succ ih
    · rw [occurrences_of_not_begins h]
      exact Nat.le_trans ih (occurrences_le_cons _ _ _)

/-- The first pass puts the whole value where an `%input` stands. -/
theorem occurrences_value_le (p : List Char) (h : inputMark <:+: cs) :
    occurrences p v ≤ occurrences p (passed v cs) := by
  induction cs using marks_induction with
  | nil => exact absurd (List.infix_nil.mp h) (List.cons_ne_nil _ _)
  | input cs _ =>
    rw [passed_input]
    exact occurrences_le_append_right p v _
  | page cs ih =>
    rw [passed_page]
    exact Nat.le_trans (ih (inert_input_page.infix_of_append h)) (occurrences_le_append _ _ _)
  | char c cs hinput _ ih =>
    rw [passed_char v hinput]
    have hrest : inputMark <:+: cs := (List.infix_cons_iff.mp h).resolve_left hinput
    exact Nat.le_trans (ih hrest) (occurrences_le_cons _ _ _)

/-- Form text escapes every percent sign. -/
theorem count_le_occurrences_escape (bs : List UInt8) :
    bs.count 0x25 ≤ occurrences percentEscape (FormText.escapeBytes bs) := by
  induction bs with
  | nil => exact Nat.le_refl _
  | cons b bs ih =>
    rw [FormText.escapeBytes, List.flatMap_cons, List.count_cons]
    by_cases hb : b = 0x25
    · subst hb
      have hescape : FormText.escapeByte 0x25 = percentEscape := by decide
      have hmore := occurrences_le_append percentEscape ['2', '5'] (FormText.escapeBytes bs)
      have hone := occurrences_of_begins (List.prefix_append percentEscape
        (FormText.escapeBytes bs))
      rw [hescape, if_pos (by decide)]
      exact Nat.le_trans (Nat.succ_le_succ (Nat.le_trans ih hmore)) (Nat.le_of_eq hone.symm)
    · rw [if_neg (by simpa using hb)]
      exact Nat.le_trans ih (occurrences_le_append _ _ _)

/-- A percent sign begins an escape, or an `%input`, or neither. -/
theorem occurrences_add_le_count (cs : List Char) :
    occurrences percentEscape cs + occurrences inputMark cs ≤ cs.count '%' := by
  induction cs with
  | nil => exact Nat.le_refl _
  | cons c cs ih =>
    by_cases hc : c = '%'
    · subst hc
      rw [List.count_cons_self]
      by_cases h : percentEscape <+: '%' :: cs
      · have hother : ¬inputMark <+: '%' :: cs := by
          obtain ⟨rest, hrest⟩ := h
          obtain ⟨-, rfl⟩ := List.cons.inj hrest
          simp [inputMark]
        rw [occurrences_of_begins h, occurrences_of_not_begins hother]
        omega
      · have hone : occurrences inputMark ('%' :: cs) ≤ occurrences inputMark cs + 1 := by
          rw [occurrences]
          split <;> omega
        rw [occurrences_of_not_begins h]
        omega
    · have hescape : ¬percentEscape <+: c :: cs := not_prefix_of_ne hc _ cs
      have hinput : ¬inputMark <+: c :: cs := not_prefix_of_ne hc _ cs
      rwa [occurrences_of_not_begins hescape, occurrences_of_not_begins hinput,
        List.count_cons_of_ne hc]

/-! ## A text as its own template -/

def IsLiteral (t : String) : Prop := ¬inputMark <:+: t.toList ∧ ¬pageMark <:+: t.toList

theorem isLiteral_iff (t : String) : IsLiteral t ↔
    occurrences inputMark t.toList = 0 ∧ occurrences pageMark t.toList = 0 :=
  and_congr (occurrences_eq_zero_iff isMark_input.ne_nil).symm
    (occurrences_eq_zero_iff isMark_page.ne_nil).symm

instance (t : String) : Decidable (IsLiteral t) := decidable_of_iff _ (isLiteral_iff t).symm

/-- An `%input` does not come back from the text that replaces it. -/
theorem passes_ne_self {t : String} {e : Charset} (h : inputMark <:+: t.toList) (d : List Char) :
    replaceFrom pageMark d 0 (passed (inputValue e (some t)) t.toList) ≠ t.toList := by
  intro hsame
  -- The text would have an escape for each of its percent signs, and an `%input` besides.
  have hfinal : occurrences percentEscape (inputValue e (some t)) ≤
      occurrences percentEscape t.toList := by
    have hkept := occurrences_escape_le d (passed (inputValue e (some t)) t.toList)
    rw [hsame] at hkept
    exact Nat.le_trans (occurrences_value_le percentEscape h) hkept
  have hvalue : t.toList.count '%' ≤ occurrences percentEscape (inputValue e (some t)) := by
    rw [inputValue, Option.getD_some, FormText.encode, String.toList_ofList]
    exact Nat.le_trans (e.count_percent_le t.toList) (count_le_occurrences_escape _)
  have hfew := occurrences_add_le_count t.toList
  have hsome : occurrences inputMark t.toList ≠ 0 :=
    fun hzero => (occurrences_eq_zero_iff isMark_input.ne_nil).mp hzero h
  omega

/-- A text expanded with itself as the input stays as it is exactly when it has no placeholder. -/
theorem expand_self_iff (t : String) (e : Charset) (page : UInt32) :
    expand t e (some t) page = t ↔ IsLiteral t := by
  rw [expand_eq_passes, ← String.toList_inj, String.toList_ofList]
  by_cases h : inputMark <:+: t.toList
  · exact ⟨fun hsame => absurd hsame (passes_ne_self h _), fun hliteral => absurd h hliteral.1⟩
  · rw [passed, replaceFrom_of_absent h]
    refine ⟨fun hsame => ⟨h, ?_⟩, fun hliteral => replaceFrom_of_absent hliteral.2 _⟩
    have hcount := count_percent_passes (percent_not_mem_toString page.toNat) t.toList
    rw [hsame] at hcount
    exact (occurrences_eq_zero_iff isMark_page.ne_nil).mp (by omega)

end ContentSource.Template
