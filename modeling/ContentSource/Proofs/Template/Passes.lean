import ContentSource.Proofs.Template.Occurrences

/-! # Two passes and one

The placeholders of a template can be replaced all at once, in one pass over it. The two passes of
`expand` come to the same exactly if the first one, which replaces every `%input`, brings about no
other `%page`: the second one takes away a percent sign for each `%page` that it finds.
-/
namespace ContentSource.Template

variable {v d cs : List Char} {c : Char}

def inputMark : List Char := ['%', 'i', 'n', 'p', 'u', 't']

def pageMark : List Char := ['%', 'p', 'a', 'g', 'e']

def fill (input page : List Char) : List Char → List Char
  | '%' :: 'i' :: 'n' :: 'p' :: 'u' :: 't' :: cs => input ++ fill input page cs
  | '%' :: 'p' :: 'a' :: 'g' :: 'e' :: cs => page ++ fill input page cs
  | c :: cs => c :: fill input page cs
  | [] => []

theorem isMark_input : IsMark inputMark where
  starts := ⟨'i', _, rfl, by decide⟩
  once := by decide

theorem isMark_page : IsMark pageMark where
  starts := ⟨'p', _, rfl, by decide⟩
  once := by decide

theorem inert_input_page : Inert inputMark pageMark :=
  ⟨fun cs => by simp [inputMark], isMark_input.inert_of_not_mem (by decide)⟩

theorem inert_page_input : Inert pageMark inputMark :=
  ⟨fun cs => by simp [pageMark], isMark_page.inert_of_not_mem (by decide)⟩

/-- A text goes on with one of the placeholders, or with a character that begins none. -/
theorem marks_induction {motive : List Char → Prop} (nil : motive [])
    (input : ∀ cs, motive cs → motive (inputMark ++ cs))
    (page : ∀ cs, motive cs → motive (pageMark ++ cs))
    (char : ∀ c cs, ¬inputMark <+: c :: cs → ¬pageMark <+: c :: cs → motive cs →
      motive (c :: cs))
    (cs : List Char) : motive cs := by
  induction cs using fill.induct with
  | case1 cs ih => exact input cs ih
  | case2 cs ih => exact page cs ih
  | case3 c cs hinput hpage ih =>
    refine char c cs ?_ ?_ ih
    · rintro ⟨rest, hrest⟩
      cases hrest
      exact hinput rest rfl rfl
    · rintro ⟨rest, hrest⟩
      cases hrest
      exact hpage rest rfl rfl
  | case4 => exact nil

theorem fill_input (v d cs : List Char) : fill v d (inputMark ++ cs) = v ++ fill v d cs := rfl

theorem fill_page (v d cs : List Char) : fill v d (pageMark ++ cs) = d ++ fill v d cs := rfl

theorem fill_char (v d : List Char) (hinput : ¬inputMark <+: c :: cs)
    (hpage : ¬pageMark <+: c :: cs) : fill v d (c :: cs) = c :: fill v d cs := by
  rw [fill]
  · rintro rest rfl rfl
    exact hinput (List.prefix_append inputMark rest)
  · rintro rest rfl rfl
    exact hpage (List.prefix_append pageMark rest)

def passed (v cs : List Char) : List Char := replaceFrom inputMark v 0 cs

theorem passed_input (v cs : List Char) : passed v (inputMark ++ cs) = v ++ passed v cs :=
  replaceFrom_append isMark_input.ne_nil v cs

theorem passed_page (v cs : List Char) : passed v (pageMark ++ cs) = pageMark ++ passed v cs :=
  inert_input_page.replaceFrom_append v cs

theorem passed_char (v : List Char) (h : ¬inputMark <+: c :: cs) :
    passed v (c :: cs) = c :: passed v cs := replaceFrom_of_not_begins h v

theorem occurrences_page (cs : List Char) :
    occurrences pageMark (pageMark ++ cs) = occurrences pageMark cs + 1 := by
  have hrest : Inert pageMark pageMark.tail := isMark_page.inert_of_not_mem isMark_page.once
  exact (occurrences_of_begins (List.prefix_append pageMark cs)).trans
    (congrArg (· + 1) (hrest.occurrences_append cs))

/-- The first pass keeps every `%page`. -/
theorem occurrences_le_passed (hv : Inert pageMark v) (cs : List Char) :
    occurrences pageMark cs ≤ occurrences pageMark (passed v cs) := by
  induction cs using marks_induction with
  | nil => exact Nat.le_refl _
  | input cs ih => rwa [passed_input, hv.occurrences_append, inert_page_input.occurrences_append]
  | page cs ih =>
    rw [passed_page, occurrences_page, occurrences_page]
    exact Nat.succ_le_succ ih
  | char c cs hinput hpage ih =>
    rw [passed_char v hinput, occurrences_of_not_begins hpage]
    exact Nat.le_trans ih (occurrences_le_cons _ _ _)

/-- If the first pass brings about no other `%page`, the second one finishes what one pass does. -/
theorem passes_eq_fill (hv : Inert pageMark v)
    (h : occurrences pageMark (passed v cs) = occurrences pageMark cs) :
    replaceFrom pageMark d 0 (passed v cs) = fill v d cs := by
  induction cs using marks_induction with
  | nil => rfl
  | input cs ih =>
    rw [passed_input, hv.occurrences_append, inert_page_input.occurrences_append] at h
    rw [passed_input, hv.replaceFrom_append, fill_input, ih h]
  | page cs ih =>
    rw [passed_page, occurrences_page, occurrences_page] at h
    rw [passed_page, replaceFrom_append isMark_page.ne_nil, fill_page, ih (Nat.succ_inj.mp h)]
  | char c cs hinput hpage ih =>
    -- What follows keeps every `%page`, so a new one that began here would be one too many.
    have hle := occurrences_le_passed hv cs
    rw [passed_char v hinput, occurrences_of_not_begins hpage] at h
    have hnone : ¬pageMark <+: c :: passed v cs := by
      intro hbegins
      rw [occurrences_of_begins hbegins] at h
      omega
    rw [occurrences_of_not_begins hnone] at h
    rw [passed_char v hinput, replaceFrom_of_not_begins hnone, fill_char v d hinput hpage, ih h]

/-! ## Percent signs -/

theorem count_percent_page (cs : List Char) :
    (pageMark ++ cs).count '%' = cs.count '%' + 1 := by
  rw [List.count_append, Nat.add_comm]
  rfl

/-- The second pass takes away one percent sign for each `%page`. -/
theorem count_percent_passes (hd : '%' ∉ d) (cs : List Char) :
    (replaceFrom pageMark d 0 cs).count '%' + occurrences pageMark cs = cs.count '%' := by
  induction cs using marks_induction with
  | nil => rfl
  | input cs ih =>
    rw [inert_page_input.replaceFrom_append, inert_page_input.occurrences_append,
      List.count_append, List.count_append, Nat.add_assoc, ih]
  | page cs ih =>
    rw [replaceFrom_append isMark_page.ne_nil, occurrences_page, count_percent_page,
      List.count_append, List.count_eq_zero.mpr hd]
    omega
  | char c cs _ hpage ih =>
    rw [replaceFrom_of_not_begins hpage, occurrences_of_not_begins hpage, List.count_cons,
      List.count_cons]
    omega

/-- So does the one pass, for each `%page` of the template. -/
theorem count_percent_fill (hd : '%' ∉ d) (v cs : List Char) :
    (fill v d cs).count '%' + occurrences pageMark cs = (passed v cs).count '%' := by
  induction cs using marks_induction with
  | nil => rfl
  | input cs ih =>
    rw [fill_input, passed_input, inert_page_input.occurrences_append, List.count_append,
      List.count_append, Nat.add_assoc, ih]
  | page cs ih =>
    rw [fill_page, passed_page, occurrences_page, count_percent_page, List.count_append,
      List.count_eq_zero.mpr hd]
    omega
  | char c cs hinput hpage ih =>
    rw [fill_char v d hinput hpage, passed_char v hinput, occurrences_of_not_begins hpage,
      List.count_cons, List.count_cons]
    omega

/-- Two passes do what one does exactly when the first brings about no other `%page`. -/
theorem passes_eq_fill_iff (hv : Inert pageMark v) (hd : '%' ∉ d) :
    replaceFrom pageMark d 0 (passed v cs) = fill v d cs ↔
      occurrences pageMark (passed v cs) = occurrences pageMark cs := by
  refine ⟨fun h => ?_, passes_eq_fill hv⟩
  have htwo := count_percent_passes hd (passed v cs)
  have hone := count_percent_fill hd v cs
  rw [h] at htwo
  omega

/-! ## Templates and their values -/

theorem inert_encode {p : List Char} (hp : IsMark p) (e : Charset) (t : String) :
    Inert p (FormText.encode e t).toList := by
  rw [FormText.encode, String.toList_ofList]
  exact hp.inert_escapeBytes _

theorem percent_not_mem_toString (n : Nat) : '%' ∉ (toString n).toList := by
  intro hmem
  have hchars : (toString n).toList = Nat.toDigits 10 n := by simp
  rw [hchars] at hmem
  exact absurd (Nat.isDigit_of_mem_toDigits (by decide) (by decide) hmem) (by decide)

def inputValue (e : Charset) (input : Option String) : List Char :=
  (FormText.encode e (input.getD "")).toList

theorem expand_eq_passes (template : String) (e : Charset) (input : Option String)
    (page : UInt32) : expand template e input page =
      String.ofList (replaceFrom pageMark (toString page.toNat).toList 0
        (passed (inputValue e input) template.toList)) := by
  simp only [expand, FormText.encode_toString, replace, String.toList_ofList]
  rfl

end ContentSource.Template
