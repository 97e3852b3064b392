import ContentSource.Proofs.Template.Passes

/-! # Templates that are safe for every input

An input brings about another `%page` only where the template has the beginning of one right in
front of an `%input`. A template without that is expanded as in one pass for every input, and for no
other template is that so, since the rest of the `%page` is its own form text and can be the input.
-/
namespace ContentSource.Template

variable {v cs : List Char}

def expandAtOnce (template : String) (charset : Charset) (input : Option String) (page : UInt32) :
    String :=
  String.ofList (fill (FormText.encode charset (input.getD "")).toList
    (toString page.toNat).toList template.toList)

/-- No `%input` stands right behind the beginning of a `%page`. -/
def Apart (cs : List Char) : Prop :=
  ∀ u w, u ++ w = pageMark → u ≠ [] → w ≠ [] → ¬u ++ inputMark <:+: cs

theorem Apart.of_append (xs : List Char) (h : Apart (xs ++ cs)) : Apart cs :=
  fun u w hpage hu hw hwithin =>
    h u w hpage hu hw (hwithin.trans (List.suffix_append xs cs).isInfix)

/-- What stands at the beginning of a text after the first pass stood there before, or the beginning
of it stood there in front of an `%input`. -/
theorem prefix_of_prefix_passed {w : List Char} (h : w <+: passed v cs) :
    w <+: cs ∨ ∃ u x, u ++ x = w ∧ x ≠ [] ∧ u ++ inputMark <+: cs := by
  induction w generalizing cs with
  | nil => exact .inl List.nil_prefix
  | cons c w ih =>
    by_cases hinput : inputMark <+: cs
    · exact .inr ⟨[], c :: w, rfl, List.cons_ne_nil _ _, hinput⟩
    · cases cs with
      | nil => simp [passed, replaceFrom] at h
      | cons a cs =>
        rw [passed_char v hinput, List.cons_prefix_cons] at h
        obtain ⟨rfl, h⟩ := h
        rcases ih h with h | ⟨u, x, rfl, hx, h⟩
        · exact .inl (List.cons_prefix_cons.mpr ⟨rfl, h⟩)
        · exact .inr ⟨c :: u, x, rfl, hx, List.cons_prefix_cons.mpr ⟨rfl, h⟩⟩

theorem occurrences_passed_of_apart (hv : Inert pageMark v) (h : Apart cs) :
    occurrences pageMark (passed v cs) = occurrences pageMark cs := by
  induction cs using marks_induction with
  | nil => rfl
  | input cs ih =>
    rw [passed_input, hv.occurrences_append, inert_page_input.occurrences_append,
      ih (Apart.of_append _ h)]
  | page cs ih =>
    rw [passed_page, occurrences_page, occurrences_page, ih (Apart.of_append _ h)]
  | char c cs hinput hpage ih =>
    have hnone : ¬pageMark <+: c :: passed v cs := by
      intro hbegins
      obtain ⟨hc, hrest⟩ := List.cons_prefix_cons.mp hbegins
      rcases prefix_of_prefix_passed hrest with hrest | ⟨u, x, hux, hx, hrest⟩
      · exact hpage (List.cons_prefix_cons.mpr ⟨hc, hrest⟩)
      · refine h ('%' :: u) x (congrArg ('%' :: ·) hux) (List.cons_ne_nil _ _) hx ?_
        exact (List.cons_prefix_cons.mpr ⟨hc, hrest⟩).isInfix
    rw [passed_char v hinput, occurrences_of_not_begins hnone, occurrences_of_not_begins hpage,
      ih (Apart.of_append [c] h)]

section Seam

variable {u w : List Char}

/-- A beginning of a `%page` has the percent sign, and no placeholder is as short. -/
theorem beginning_facts (hpage : u ++ w = pageMark) (hu : u ≠ []) (hw : w ≠ []) :
    (∃ u', u = '%' :: u' ∧ u' ++ w = pageMark.tail) ∧ passed w u = u ∧
      occurrences pageMark u = 0 := by
  have hlength : u.length + w.length = 5 := by
    rw [← List.length_append, hpage]
    rfl
  have hshort : u.length < 5 := by
    have := List.length_pos_iff.mpr hw
    omega
  refine ⟨?_, replaceFrom_of_absent (fun h => ?_) w,
    (occurrences_eq_zero_iff isMark_page.ne_nil).mpr fun h => ?_⟩
  · cases u with
    | nil => exact absurd rfl hu
    | cons c u =>
      obtain ⟨rfl, hrest⟩ := List.cons.inj hpage
      exact ⟨u, rfl, hrest⟩
  · have hle : 6 ≤ u.length := h.length_le
    omega
  · have hle : 5 ≤ u.length := h.length_le
    omega

/-- The rest of a `%page`, put behind its beginning, makes another one. -/
theorem occurrences_lt_passed (hpage : u ++ w = pageMark) (hu : u ≠ []) (hw : w ≠ [])
    (h : u ++ inputMark <:+: cs) :
    occurrences pageMark cs < occurrences pageMark (passed w cs) := by
  obtain ⟨⟨u, rfl, hrest⟩, hpassed, hnone⟩ := beginning_facts hpage hu hw
  obtain ⟨a, b, rfl⟩ := h
  have hv : Inert pageMark w := isMark_page.inert_of_not_mem fun hc =>
    isMark_page.once (hrest ▸ List.mem_append_right u hc)
  rw [List.append_assoc, List.append_assoc]
  -- Both texts are divided in front of percent signs, where no placeholder is cut in two.
  have hbefore : occurrences pageMark (a ++ ('%' :: u ++ (inputMark ++ b))) =
      occurrences pageMark a + occurrences pageMark b := by
    have hfront := isMark_page.occurrences_append_percent a (u ++ (inputMark ++ b))
    have hback := isMark_page.occurrences_append_percent ('%' :: u) (inputMark.tail ++ b)
    have hinput := inert_page_input.occurrences_append b
    exact hfront.trans (congrArg _ (hback.trans (by rw [hnone, Nat.zero_add]; exact hinput)))
  have hafter : passed w (a ++ ('%' :: u ++ (inputMark ++ b))) =
      passed w a ++ '%' :: (u ++ (w ++ passed w b)) := by
    have hfront := isMark_input.replaceFrom_append_percent w a (u ++ (inputMark ++ b))
    have hback := isMark_input.replaceFrom_append_percent w ('%' :: u) (inputMark.tail ++ b)
    have hseam : passed w ('%' :: u) ++ passed w (inputMark ++ b) =
        '%' :: (u ++ (w ++ passed w b)) := by
      rw [hpassed, passed_input, List.cons_append]
    exact hfront.trans (congrArg (passed w a ++ ·) (hback.trans hseam))
  have hmade : '%' :: (u ++ (w ++ passed w b)) = pageMark ++ passed w b := by
    rw [← hpage, List.append_assoc, List.cons_append]
  have hale := occurrences_le_passed hv a
  have hble := occurrences_le_passed hv b
  rw [hbefore, hafter, isMark_page.occurrences_append_percent, hmade, occurrences_page]
  omega

end Seam

theorem expand_eq_atOnce_iff (template : String) (e : Charset) (input : Option String)
    (page : UInt32) : expand template e input page = expandAtOnce template e input page ↔
      occurrences pageMark (passed (inputValue e input) template.toList) =
        occurrences pageMark template.toList := by
  rw [expand_eq_passes, expandAtOnce, String.ofList_inj]
  exact passes_eq_fill_iff (inert_encode isMark_page e _) (percent_not_mem_toString _)

/-- Whatever a `%page` goes on with is the form text of an input, namely of itself. -/
theorem exists_input (e : Charset) {u w : List Char} (hpage : u ++ w = pageMark) (hu : u ≠ [])
    (hw : w ≠ []) : ∃ input, inputValue e input = w := by
  obtain ⟨⟨u, rfl, hrest⟩, -⟩ := beginning_facts hpage hu hw
  have hall : pageMark.tail.all (fun c => decide (FormText.IsPlainChar c)) = true := by decide
  have hplain : ∀ c ∈ w, FormText.IsPlainChar c := fun c hc =>
    of_decide_eq_true (List.all_eq_true.mp hall c (hrest ▸ List.mem_append_right u hc))
  refine ⟨some (String.ofList w), ?_⟩
  rw [inputValue, Option.getD_some, FormText.encode_of_plain e (by simpa using hplain),
    String.toList_ofList]

/-- Both placeholders are replaced as in one pass exactly when replacing every `%input` brings about
no other `%page`. It never does, whatever the input, in exactly those templates in which no `%input`
stands right behind the beginning of a `%page`. -/
theorem expand_at_once_iff (template : String) (e : Charset) :
    (∀ input page, expand template e input page = expandAtOnce template e input page ↔
      occurrences pageMark (replace "%input" (FormText.encode e (input.getD "")) template).toList =
        occurrences pageMark template.toList) ∧
    ((∀ input page, expand template e input page = expandAtOnce template e input page) ↔
      Apart template.toList) := by
  refine ⟨fun input page => ?_, fun h u w hpage hu hw hwithin => ?_, fun h input page => ?_⟩
  · rw [replace, String.toList_ofList]
    exact expand_eq_atOnce_iff template e input page
  · obtain ⟨input, rfl⟩ := exists_input e hpage hu hw
    have hsame := (expand_eq_atOnce_iff template e input 1).mp (h input 1)
    have hmore := occurrences_lt_passed hpage hu hw hwithin
    omega
  · refine (expand_eq_atOnce_iff template e input page).mpr ?_
    exact occurrences_passed_of_apart (inert_encode isMark_page e _) h

/-- An input that goes on where the template has begun a `%page` is read as one. -/
theorem input_read_as_page :
    ¬∀ template e input page,
      expand template e input page = expandAtOnce template e input page := by
  intro h
  have hpage := h "%%input" .utf8 (some "page") 7
  exact absurd hpage (by decide +kernel)

end ContentSource.Template
