import ContentSource.Proofs.FormText.Escapes
import ContentSource.Proofs.Request.Blocks

/-! # Merging blocks

A block puts its fields over those of a request and takes none away. In UTF-8 an escaped separator
divides a block into two that are read for themselves, whatever stands on its sides: an escape or a
character that is cut off before it is not finished behind it. So two blocks with the separator
between them do what one does after the other. A header block ends with a separator of its own.
-/
namespace ContentSource.Request

variable {s q r : Request}

/-! ## Reading two blocks -/

def blockFields (between separator : Char) (value? : List Char → Option (List Char)) (e : Charset)
    (block : String) : List (String × String) :=
  readFields between separator value? (FormText.decode e block)

theorem setHeaderBlock_headers (s : Request) (b : String) : (s.setHeaderBlock b).headers =
    s.headers.insertAll (blockFields '\n' ':' headerValue? s.charset b) := rfl

/-- Two blocks with an escaped separator between them are merged one after the other. -/
theorem insertAll_blockFields (m : Fields String) (separator : Char)
    (value? : List Char → Option (List Char)) {byte : UInt8} (hbyte : byte.toNat < 0x80)
    (hplain : FormText.isPlain byte = false) (hspace : byte ≠ 0x20) (b c : String) :
    m.insertAll (blockFields (Char.ofNat byte.toNat) separator value? .utf8
        (b ++ String.ofList (FormText.escapeByte byte) ++ c)) =
      (m.insertAll (blockFields (Char.ofNat byte.toNat) separator value? .utf8 b)).insertAll
        (blockFields (Char.ofNat byte.toNat) separator value? .utf8 c) := by
  rw [blockFields, FormText.decode_append_escape b c hbyte hplain hspace, readFields_separator,
    Fields.insertAll_append]
  rfl

theorem setHeaderBlock_feed (h : s.charset = .utf8) (b c : String) :
    s.setHeaderBlock (b ++ "%0A" ++ c) = (s.setHeaderBlock b).setHeaderBlock c := by
  have hfeed : (0x0A : UInt8).toNat < 0x80 := by decide
  have hheaders := insertAll_blockFields s.headers ':' headerValue? hfeed rfl (by decide) b c
  rw [← h] at hheaders
  exact congrArg (fun m => { s with headers := m }) hheaders

theorem setFormBlock_and (h : s.charset = .utf8) (b c : String) :
    s.setFormBlock (b ++ "%26" ++ c) = (s.setFormBlock b).setFormBlock c := by
  have hand : (0x26 : UInt8).toNat < 0x80 := by decide
  have hform := insertAll_blockFields s.form '=' formValue? hand rfl (by decide) b c
  rw [← h] at hform
  exact congrArg (fun m => { s with form := m }) hform

/-! ## The same block twice -/

theorem setHeaderBlock_twice (s : Request) (b : String) :
    (s.setHeaderBlock b).setHeaderBlock b = s.setHeaderBlock b :=
  congrArg (fun m => { s with headers := m }) (s.headers.insertAll_insertAll _)

theorem setFormBlock_twice (s : Request) (b : String) :
    (s.setFormBlock b).setFormBlock b = s.setFormBlock b :=
  congrArg (fun m => { s with form := m }) (s.form.insertAll_insertAll _)

/-! ## Written blocks -/

theorem setHeaderBlock_headerBlock_append (hs : s.charset = .utf8) (hq : q.charset = .utf8)
    (hr : r.charset = .utf8) :
    s.setHeaderBlock (q.headerBlock ++ r.headerBlock) =
      (s.setHeaderBlock q.headerBlock).setHeaderBlock r.headerBlock := by
  have hread (t : String) : FormText.decode .utf8 (FormText.encode .utf8 t) = t :=
    FormText.decode_encode_of_holds (Charset.holds_of_eq_utf8 rfl)
  have hlines (t : String) : readFields '\n' ':' headerValue? (q.headerLines ++ t) =
      readFields '\n' ':' headerValue? q.headerLines ++ readFields '\n' ':' headerValue? t :=
    readFields_lines_append q.toList_headerLines t
  have hheaders : (s.setHeaderBlock (q.headerBlock ++ r.headerBlock)).headers =
      ((s.setHeaderBlock q.headerBlock).setHeaderBlock r.headerBlock).headers := by
    simp only [setHeaderBlock_headers, setHeaderBlock_charset, hs, blockFields, headerBlock, hq, hr,
      ← FormText.encode_append, hread, hlines, Fields.insertAll_append]
  exact congrArg (fun m => { s with headers := m }) hheaders

theorem get?_setHeaderBlock (hs : s.charset = .utf8) (hr : r.charset = .utf8)
    (h : ∀ f ∈ r.headers.toList, IsHeader f) (name : String) :
    (s.setHeaderBlock r.headerBlock).headers.get? name =
      (r.headers.get? name).or (s.headers.get? name) := by
  rw [setHeaderBlock_headerBlock (Charset.holds_of_eq_utf8 hr) s (hs.trans hr.symm),
    readFields_headerLines h]
  exact Fields.get?_insertAll_toList s.headers r.headers name

theorem get?_setFormBlock (hs : s.charset = .utf8) (hr : r.charset = .utf8)
    (h : ∀ f ∈ r.form.toList, IsFormField f ∧ f.2 ≠ "") (name : String) :
    (s.setFormBlock r.formBlock).form.get? name =
      (r.form.get? name).or (s.form.get? name) := by
  have hkept : (r.form.toList.filter fun f => f.2 != "") = r.form.toList :=
    List.filter_eq_self.mpr fun f hf => bne_iff_ne.mpr (h f hf).2
  rw [setFormBlock_formBlock (Charset.holds_of_eq_utf8 hr) s (hs.trans hr.symm),
    readFields_formPairs fun f hf => (h f hf).1, hkept]
  exact Fields.get?_insertAll_toList s.form r.form name

/-! ## Blocks in general -/

/-- Blocks are merged one after the other where an escaped separator divides them, and so are header
blocks without one if requests have written them. A block that is merged again does nothing, and
merging takes away no field, changes no field of the other kind and leaves the charset. Of fields
that their lines or pairs can carry, each name has the value that was merged last. -/
theorem blocks_merge (s : Request) :
    (s.charset = .utf8 → ∀ b c,
      s.setHeaderBlock (b ++ "%0A" ++ c) = (s.setHeaderBlock b).setHeaderBlock c ∧
      s.setFormBlock (b ++ "%26" ++ c) = (s.setFormBlock b).setFormBlock c) ∧
    (∀ b, (s.setHeaderBlock b).setHeaderBlock b = s.setHeaderBlock b ∧
      (s.setFormBlock b).setFormBlock b = s.setFormBlock b) ∧
    (∀ b name,
      ((s.headers.get? name).isSome → ((s.setHeaderBlock b).headers.get? name).isSome) ∧
      ((s.form.get? name).isSome → ((s.setFormBlock b).form.get? name).isSome)) ∧
    (∀ b, ((s.setHeaderBlock b).form = s.form ∧ (s.setHeaderBlock b).charset = s.charset) ∧
      (s.setFormBlock b).headers = s.headers ∧ (s.setFormBlock b).charset = s.charset) ∧
    ∀ q r : Request, s.charset = .utf8 → q.charset = .utf8 → r.charset = .utf8 →
      s.setHeaderBlock (q.headerBlock ++ r.headerBlock) =
        (s.setHeaderBlock q.headerBlock).setHeaderBlock r.headerBlock ∧
      ((∀ f ∈ q.headers.toList, IsHeader f) → (∀ f ∈ r.headers.toList, IsHeader f) → ∀ name,
        (s.setHeaderBlock (q.headerBlock ++ r.headerBlock)).headers.get? name =
          (r.headers.get? name).or ((q.headers.get? name).or (s.headers.get? name))) ∧
      ((∀ f ∈ q.form.toList, IsFormField f ∧ f.2 ≠ "") →
        (∀ f ∈ r.form.toList, IsFormField f ∧ f.2 ≠ "") → ∀ name,
          (s.setFormBlock (q.formBlock ++ "%26" ++ r.formBlock)).form.get? name =
            (r.form.get? name).or ((q.form.get? name).or (s.form.get? name))) := by
  refine ⟨fun h b c => ⟨setHeaderBlock_feed h b c, setFormBlock_and h b c⟩,
    fun b => ⟨setHeaderBlock_twice s b, setFormBlock_twice s b⟩,
    fun _ _ => ⟨Fields.isSome_get?_insertAll _, Fields.isSome_get?_insertAll _⟩,
    fun _ => ⟨⟨rfl, rfl⟩, rfl, rfl⟩, fun q r hs hq hr => ⟨?_, fun hfq hfr name => ?_,
      fun hfq hfr name => ?_⟩⟩
  · exact setHeaderBlock_headerBlock_append hs hq hr
  · have hmerged : (s.setHeaderBlock q.headerBlock).charset = .utf8 := hs
    rw [setHeaderBlock_headerBlock_append hs hq hr, get?_setHeaderBlock hmerged hr hfr,
      get?_setHeaderBlock hs hq hfq]
  · have hmerged : (s.setFormBlock q.formBlock).charset = .utf8 := hs
    rw [setFormBlock_and hs, get?_setFormBlock hmerged hr hfr, get?_setFormBlock hs hq hfq]

def correction : Request where
  headers := .ofList [("X-Blank", "no")]
  form := .ofList [("p", "50%"), ("q", "a=b")]
  charset := .utf8

/-- An escape and a character that are cut off at a separator and go on behind it, and blocks that
requests have written. -/
theorem cut_off_blocks_merge :
    (greeting.setHeaderBlock ("X-Rate: 50%e" ++ "%0A" ++ "4: four")).headers =
      .ofList [("4", "four"), ("Accept-Language", "español; q=1"), ("X-Blank", " "),
        ("X-Rate", "50%e")] ∧
    (greeting.setFormBlock ("price=3%E2%82" ++ "%26" ++ "%AC=per+day")).form =
      .ofList [("price", "3\uFFFD"), ("\uFFFD", "per day")] ∧
    (greeting.headers.get? "X-Blank").isSome ∧
    ((greeting.setHeaderBlock "X-Rate: 50%e").headers.get? "X-Blank").isSome ∧
    (search.setHeaderBlock (greeting.headerBlock ++ correction.headerBlock)).headers.get?
      "X-Blank" = some "no" ∧
    (search.setFormBlock (correction.formBlock ++ "%26" ++ correction.formBlock)).form.get?
      "q" = some "a=b" := by
  obtain ⟨hmerge, -, hkept, -, -⟩ := blocks_merge greeting
  obtain ⟨-, -, -, -, hwritten⟩ := blocks_merge search
  have hblank : (greeting.headers.get? "X-Blank").isSome := by decide +kernel
  have hheaders := (hmerge rfl "X-Rate: 50%e" "4: four").1
  have hform := (hmerge rfl "price=3%E2%82" "%AC=per+day").2
  have hlast := (hwritten greeting correction rfl rfl rfl).2.1 (by decide +kernel)
    (by decide +kernel) "X-Blank"
  have hfield := (hwritten correction correction rfl rfl rfl).2.2 (by decide +kernel)
    (by decide +kernel) "q"
  refine ⟨?_, ?_, hblank, (hkept _ _).1 hblank, ?_, ?_⟩
  · rw [hheaders]
    decide +kernel
  · rw [hform]
    decide +kernel
  · rw [hlast]
    decide +kernel
  · rw [hfield]
    decide +kernel

end ContentSource.Request
