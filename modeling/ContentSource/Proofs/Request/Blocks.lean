import ContentSource.Proofs.Fields
import ContentSource.Proofs.FormText
import ContentSource.Proofs.Request.Parts

/-! # Blocks that are read back

A block is read back from the text that its charset reproduces, which in UTF-8 is every text. What
comes back are the fields that their own line or pair can carry: nothing in them is a separator,
and a header value does not begin with the white space that stands behind the colon. A pair with an
empty value is no field, so a form comes back without its empty ones.
-/
namespace ContentSource.Request

variable {r : Request} {f : String × String}

def fresh (c : Charset) : Request := ⟨.empty, .empty, c⟩

/-! ## Headers -/

/-- A header that comes back from its line. A value of one character may be a blank. -/
structure IsHeader (f : String × String) : Prop where
  name : f.1 ≠ ""
  name_colon : ':' ∉ f.1.toList
  name_feed : '\n' ∉ f.1.toList
  value : f.2 ≠ ""
  value_feed : '\n' ∉ f.2.toList
  value_start : f.2.toList.length = 1 ∨ f.2.toList.head?.any Text.isBlank = false

theorem isHeader_iff :
    IsHeader f ↔ f.1 ≠ "" ∧ ':' ∉ f.1.toList ∧ '\n' ∉ f.1.toList ∧ f.2 ≠ "" ∧ '\n' ∉ f.2.toList ∧
      (f.2.toList.length = 1 ∨ f.2.toList.head?.any Text.isBlank = false) :=
  ⟨fun ⟨h, i, j, k, l, m⟩ => ⟨h, i, j, k, l, m⟩, fun ⟨h, i, j, k, l, m⟩ => ⟨h, i, j, k, l, m⟩⟩

instance (f : String × String) : Decidable (IsHeader f) := decidable_of_iff' _ isHeader_iff

def headerLine (f : String × String) : List Char := f.1.toList ++ ':' :: ' ' :: f.2.toList

theorem toList_headerLines (r : Request) :
    r.headerLines.toList =
      (r.headers.toList.map headerLine).flatMap fun line => line ++ ['\n'] := by
  simp [headerLines, headerLine, String.toList_join, List.flatMap_map]

theorem headerValue?_space {cs : List Char} (hne : cs ≠ [])
    (h : cs.length = 1 ∨ cs.head?.any Text.isBlank = false) :
    headerValue? (' ' :: cs) = some cs := by
  obtain ⟨c, cs, rfl⟩ := List.exists_cons_of_ne_nil hne
  have hspace : Text.trimStart (' ' :: c :: cs) = Text.trimStart (c :: cs) := rfl
  by_cases hc : Text.isBlank c = true
  · -- Only a value of one character may be blank, and all characters behind the colon then are.
    have hnil : cs = [] := by simpa [hc] using h
    subst hnil
    have hblank : Text.trimStart [c] = [] := by simp [Text.trimStart, hc]
    rw [headerValue?, hspace, hblank]
    rfl
  · rw [headerValue?, hspace, Text.trimStart_eq_self (by simpa using hc)]

theorem headerValue?_eq_some {cs value : List Char} (h : headerValue? cs = some value) :
    value ≠ [] ∧ value ⊆ cs ∧ (value.length = 1 ∨ value.head?.any Text.isBlank = false) := by
  unfold headerValue? at h
  split at h
  · obtain ⟨c, hc, rfl⟩ := Option.map_eq_some_iff.mp h
    have hmem := List.mem_of_getLast? hc
    exact ⟨by simp, by simpa using hmem, Or.inl rfl⟩
  · rename_i hne
    obtain rfl := Option.some.inj h
    refine ⟨hne, (List.dropWhile_sublist _).subset, Or.inr ?_⟩
    have hhead := List.head?_dropWhile_not Text.isBlank cs
    unfold Text.trimStart
    cases hd : (cs.dropWhile Text.isBlank).head? with
    | none => rfl
    | some c =>
      rw [hd] at hhead
      simpa using hhead

theorem field?_headerLine (h : IsHeader f) : field? ':' headerValue? (headerLine f) = some f := by
  have hvalue := headerValue?_space (mt String.toList_eq_nil_iff.mp h.value) h.value_start
  rw [field?, headerLine, fieldFrom_name (mt String.toList_eq_nil_iff.mp h.name) h.name_colon,
    hvalue]
  simp

theorem not_mem_headerLine (h : IsHeader f) : '\n' ∉ headerLine f := by
  simp [headerLine, h.name_feed, h.value_feed]

theorem isHeader_of_mem_readFields {text : String}
    (h : f ∈ readFields '\n' ':' headerValue? text) : IsHeader f := by
  obtain ⟨hname, hcolon, hfeed, rest, hrest, hvalue⟩ := of_mem_readFields h
  obtain ⟨hne, hin, hstart⟩ := headerValue?_eq_some hvalue
  refine ⟨hname, hcolon, hfeed, ?_, fun hmem => hrest (hin hmem), hstart⟩
  rwa [ne_eq, ← String.toList_eq_nil_iff]

/-- Headers that their lines can carry are read as they were written. -/
theorem readFields_headerLines (h : ∀ f ∈ r.headers.toList, IsHeader f) :
    readFields '\n' ':' headerValue? r.headerLines = r.headers.toList := by
  have hlines : ∀ line ∈ r.headers.toList.map headerLine, '\n' ∉ line :=
    List.forall_mem_map.mpr fun f hf => not_mem_headerLine (h f hf)
  rw [readFields_lines hlines r.toList_headerLines,
    filterMap_field? (p := fun _ => true) fun f hf => field?_headerLine (h f hf)]
  exact List.filter_eq_self.mpr fun _ _ => rfl

theorem setHeaderBlock_headerBlock (hholds : r.charset.Holds r.headerLines.toList) (s : Request)
    (hcharset : s.charset = r.charset) :
    s.setHeaderBlock r.headerBlock =
      { s with headers :=
          s.headers.insertAll (readFields '\n' ':' headerValue? r.headerLines) } := by
  rw [setHeaderBlock, headerBlock, hcharset, FormText.decode_encode_of_holds hholds]

/-- A header block brings back all headers of a request exactly if each is one that its line can
carry, and then it puts them over those of any request in the same charset. -/
theorem header_block_returns (r : Request) :
    (r.charset = .utf8 → r.charset.Holds r.headerLines.toList) ∧
    (r.charset.Holds r.headerLines.toList →
      (((fresh r.charset).setHeaderBlock r.headerBlock).headers = r.headers ↔
        ∀ f ∈ r.headers.toList, IsHeader f) ∧
      ((∀ f ∈ r.headers.toList, IsHeader f) → ∀ s : Request, s.charset = r.charset →
        (∀ name, (s.setHeaderBlock r.headerBlock).headers.get? name =
          (r.headers.get? name).or (s.headers.get? name)) ∧
        (s.setHeaderBlock r.headerBlock).form = s.form ∧
        (s.setHeaderBlock r.headerBlock).charset = s.charset)) := by
  refine ⟨Charset.holds_of_eq_utf8, fun hholds => ⟨⟨fun hback f hf => ?_, fun hall => ?_⟩,
    fun hall s hcharset => ⟨fun name => ?_, rfl, rfl⟩⟩⟩
  · rw [← hback, setHeaderBlock_headerBlock hholds (fresh r.charset) rfl] at hf
    exact isHeader_of_mem_readFields (Fields.mem_of_mem_ofList hf)
  · rw [setHeaderBlock_headerBlock hholds (fresh r.charset) rfl, readFields_headerLines hall]
    exact Fields.ofList_toList r.headers
  · rw [setHeaderBlock_headerBlock hholds s hcharset, readFields_headerLines hall]
    exact Fields.get?_insertAll_toList s.headers r.headers name

def greeting : Request where
  headers := .ofList [("Accept-Language", "español; q=1"), ("X-Blank", " ")]
  form := .empty
  charset := .utf8

theorem greeting_returns :
    (∀ f ∈ greeting.headers.toList, IsHeader f) ∧
      ((fresh .utf8).setHeaderBlock greeting.headerBlock).headers = greeting.headers ∧
      ∀ name, ((fresh .utf8).setHeaderBlock greeting.headerBlock).headers.get? name =
        (greeting.headers.get? name).or none := by
  have hheaders : ∀ f ∈ greeting.headers.toList, IsHeader f := by decide +kernel
  have hholds := (header_block_returns greeting).1 rfl
  obtain ⟨hiff, hover⟩ := (header_block_returns greeting).2 hholds
  exact ⟨hheaders, hiff.mpr hheaders, (hover hheaders (fresh .utf8) rfl).1⟩

/-! ## Form fields -/

structure IsFormField (f : String × String) : Prop where
  name : f.1 ≠ ""
  name_equals : '=' ∉ f.1.toList
  name_and : '&' ∉ f.1.toList
  value_and : '&' ∉ f.2.toList
  value_feed : '\n' ∉ f.2.toList

def formPair (f : String × String) : List Char := f.1.toList ++ '=' :: f.2.toList

theorem toList_formPairs (r : Request) :
    r.formPairs.toList = ['&'].intercalate (r.form.toList.map formPair) := by
  rw [formPairs, String.toList_intercalate, List.map_map]
  refine congrArg _ (List.map_congr_left fun f _ => ?_)
  simp [formPair]

theorem formValue?_of_not_mem {cs : List Char} (h : '\n' ∉ cs) :
    formValue? cs = if cs = [] then none else some cs := by
  have hne : ∀ c ∈ cs, (c != '\n') = true := fun c hc =>
    bne_iff_ne.mpr fun hfeed => h (hfeed ▸ hc)
  have hall : (cs ++ []).takeWhile (· != '\n') = cs ++ [] := List.takeWhile_append_of_pos hne
  rw [List.append_nil] at hall
  rw [formValue?, hall]
  cases cs <;> rfl

theorem formValue?_eq_some {cs value : List Char} (h : formValue? cs = some value) :
    value ≠ [] ∧ value ⊆ cs ∧ '\n' ∉ value := by
  unfold formValue? at h
  split at h
  · cases h
  · rename_i hne
    obtain rfl := Option.some.inj h
    refine ⟨hne, (List.takeWhile_sublist _).subset, fun hmem => ?_⟩
    exact absurd (List.all_eq_true.mp List.all_takeWhile _ hmem) (by simp)

theorem isFormField_iff :
    IsFormField f ↔ f.1 ≠ "" ∧ '=' ∉ f.1.toList ∧ '&' ∉ f.1.toList ∧ '&' ∉ f.2.toList ∧
      '\n' ∉ f.2.toList :=
  ⟨fun ⟨h, i, j, k, l⟩ => ⟨h, i, j, k, l⟩, fun ⟨h, i, j, k, l⟩ => ⟨h, i, j, k, l⟩⟩

instance (f : String × String) : Decidable (IsFormField f) := decidable_of_iff' _ isFormField_iff

/-- A pair with an empty value is no field. -/
theorem field?_formPair (h : IsFormField f) :
    field? '=' formValue? (formPair f) = if f.2 != "" then some f else none := by
  rw [field?, formPair, fieldFrom_name (mt String.toList_eq_nil_iff.mp h.name) h.name_equals,
    formValue?_of_not_mem h.value_feed]
  by_cases hvalue : f.2 = ""
  · simp [hvalue, fieldFrom]
  · simp [hvalue]

theorem not_mem_formPair (h : IsFormField f) : '&' ∉ formPair f := by
  simp [formPair, h.name_and, h.value_and]

theorem isFormField_of_mem_readFields {text : String}
    (h : f ∈ readFields '&' '=' formValue? text) : IsFormField f ∧ f.2 ≠ "" := by
  obtain ⟨hname, hequals, hand, rest, hrest, hvalue⟩ := of_mem_readFields h
  obtain ⟨hne, hin, hfeed⟩ := formValue?_eq_some hvalue
  refine ⟨⟨hname, hequals, hand, fun hmem => hrest (hin hmem), hfeed⟩, ?_⟩
  rwa [ne_eq, ← String.toList_eq_nil_iff]

/-- Of fields that their pairs can carry, those with a value are read as they were written. -/
theorem readFields_formPairs (h : ∀ f ∈ r.form.toList, IsFormField f) :
    readFields '&' '=' formValue? r.formPairs = r.form.toList.filter fun f => f.2 != "" := by
  have hpairs : ∀ pair ∈ r.form.toList.map formPair, '&' ∉ pair :=
    List.forall_mem_map.mpr fun f hf => not_mem_formPair (h f hf)
  rw [readFields_intercalate hpairs r.toList_formPairs]
  exact filterMap_field? fun f hf => field?_formPair (h f hf)

theorem setFormBlock_formBlock (hholds : r.charset.Holds r.formPairs.toList) (s : Request)
    (hcharset : s.charset = r.charset) :
    s.setFormBlock r.formBlock =
      { s with form := s.form.insertAll (readFields '&' '=' formValue? r.formPairs) } := by
  rw [setFormBlock, formBlock, hcharset, FormText.decode_encode_of_holds hholds]

/-- A form block brings back the fields that have a value, if their pairs can carry all fields, so
it brings back a form exactly if its pairs can carry all fields and none is empty. -/
theorem form_block_drops_empty (r : Request) :
    (r.charset = .utf8 → r.charset.Holds r.formPairs.toList) ∧
    (r.charset.Holds r.formPairs.toList →
      ((∀ f ∈ r.form.toList, IsFormField f) →
        ((fresh r.charset).setFormBlock r.formBlock).form =
          r.form.filter fun f => f.2 != "") ∧
      (((fresh r.charset).setFormBlock r.formBlock).form = r.form ↔
        ∀ f ∈ r.form.toList, IsFormField f ∧ f.2 ≠ "")) := by
  refine ⟨Charset.holds_of_eq_utf8, fun hholds => ?_⟩
  have hkept : (∀ f ∈ r.form.toList, IsFormField f) →
      ((fresh r.charset).setFormBlock r.formBlock).form =
        r.form.filter fun f => f.2 != "" := by
    intro hall
    rw [setFormBlock_formBlock hholds (fresh r.charset) rfl, readFields_formPairs hall]
    exact Fields.ofList_toList (r.form.filter fun f => f.2 != "")
  refine ⟨hkept, fun hback f hf => ?_, fun hall => ?_⟩
  · rw [← hback, setFormBlock_formBlock hholds (fresh r.charset) rfl] at hf
    exact isFormField_of_mem_readFields (Fields.mem_of_mem_ofList hf)
  · rw [hkept fun f hf => (hall f hf).1]
    exact Fields.ext (List.filter_eq_self.mpr fun f hf => bne_iff_ne.mpr (hall f hf).2)

def search : Request where
  headers := .empty
  form := .ofList [("filter", ""), ("q", "a=b +50%")]
  charset := .utf8

theorem search_loses_filter :
    (∀ f ∈ search.form.toList, IsFormField f) ∧
      ((fresh .utf8).setFormBlock search.formBlock).form = .ofList [("q", "a=b +50%")] ∧
      ((fresh .utf8).setFormBlock search.formBlock).form ≠ search.form := by
  have hfields : ∀ f ∈ search.form.toList, IsFormField f := by decide +kernel
  have hholds := (form_block_drops_empty search).1 rfl
  obtain ⟨hkept, hiff⟩ := (form_block_drops_empty search).2 hholds
  refine ⟨hfields, (hkept hfields).trans (by decide +kernel), fun hback => ?_⟩
  exact absurd (hiff.mp hback) (by decide +kernel)

theorem blank_field_is_lost :
    ¬∀ r : Request, r.charset = .utf8 → (∀ f ∈ r.form.toList, IsFormField f) →
      ((fresh .utf8).setFormBlock r.formBlock).form = r.form := by
  intro h
  have hback := h ⟨.empty, .ofList [("q", "")], .utf8⟩ rfl (by decide +kernel)
  exact absurd hback (by decide +kernel)

end ContentSource.Request
