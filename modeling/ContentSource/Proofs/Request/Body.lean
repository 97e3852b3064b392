import ContentSource.Proofs.Fields
import ContentSource.Proofs.FormText.Escapes
import ContentSource.Proofs.Request.Parts

/-! # Reading form bodies

A form body escapes every name and every value on its own, so the separators that stand in it are
those that were written between them. Splitting at them and reading each side gives the fields of
the form back in their order, the empty ones too.
-/
namespace ContentSource.Request

variable {e : Charset} {separator : Char} {r q : Request} {f : String × String}

/-! ## Reading -/

def splitFirst? (separator : Char) : List Char → Option (List Char × List Char)
  | [] => none
  | c :: cs =>
    if c = separator then some ([], cs)
    else (splitFirst? separator cs).map fun p => (c :: p.1, p.2)

def readPair? (e : Charset) (pair : List Char) : Option (String × String) :=
  (splitFirst? '=' pair).map fun p =>
    (FormText.decode e (String.ofList p.1), FormText.decode e (String.ofList p.2))

def readBody? (e : Charset) (body : String) : Option (List (String × String)) :=
  (splitAt '&' body.toList).mapM (readPair? e)

theorem splitFirst?_append {cs : List Char} (h : separator ∉ cs) (rest : List Char) :
    splitFirst? separator (cs ++ separator :: rest) = some (cs, rest) := by
  induction cs with
  | nil => exact if_pos rfl
  | cons c cs ih =>
    obtain ⟨hc, hcs⟩ := List.ne_and_not_mem_of_not_mem_cons h
    rw [List.cons_append, splitFirst?, if_neg (Ne.symm hc), ih hcs, Option.map_some]

/-! ## Writing -/

def HoldsField (e : Charset) (f : String × String) : Prop :=
  e.Holds f.1.toList ∧ e.Holds f.2.toList

instance (e : Charset) (f : String × String) : Decidable (HoldsField e f) :=
  inferInstanceAs (Decidable (_ ∧ _))

def HoldsForm (r : Request) : Prop := ∀ f ∈ r.form.toList, HoldsField r.charset f

instance (r : Request) : Decidable r.HoldsForm := List.decidableBAll _ r.form.toList

theorem holdsForm_of_eq_utf8 (h : r.charset = .utf8) : r.HoldsForm := fun _ _ =>
  ⟨Charset.holds_of_eq_utf8 h, Charset.holds_of_eq_utf8 h⟩

def bodyPair (e : Charset) (f : String × String) : List Char :=
  (FormText.encode e f.1).toList ++ '=' :: (FormText.encode e f.2).toList

theorem toList_formBody (r : Request) :
    r.formBody.toList = ['&'].intercalate (r.form.toList.map (bodyPair r.charset)) := by
  rw [formBody, String.toList_intercalate, List.map_map]
  refine congrArg _ (List.map_congr_left fun f _ => ?_)
  simp [bodyPair]

theorem equals_not_mem_encode (e : Charset) (t : String) : '=' ∉ (FormText.encode e t).toList :=
  (FormText.isFormText_encode e t).not_mem (by decide) (by decide)

theorem and_not_mem_encode (e : Charset) (t : String) : '&' ∉ (FormText.encode e t).toList :=
  (FormText.isFormText_encode e t).not_mem (by decide) (by decide)

theorem and_not_mem_bodyPair (e : Charset) (f : String × String) : '&' ∉ bodyPair e f := by
  simp [bodyPair, and_not_mem_encode]

theorem readPair?_bodyPair (h : HoldsField e f) : readPair? e (bodyPair e f) = some f := by
  rw [readPair?, bodyPair, splitFirst?_append (equals_not_mem_encode e f.1), Option.map_some,
    String.ofList_toList, String.ofList_toList, FormText.decode_encode_of_holds h.1,
    FormText.decode_encode_of_holds h.2]

/-! ## Whole bodies -/

/-- The pairs of a form body are those of the form. -/
theorem splitAt_formBody (h : r.form ≠ .empty) :
    splitAt '&' r.formBody.toList = r.form.toList.map (bodyPair r.charset) := by
  have hne : r.form.toList ≠ [] := fun hnil => h (Fields.ext hnil)
  rw [toList_formBody]
  refine splitAt_intercalate (List.forall_mem_map.mpr fun f _ => ?_) (by simpa using hne)
  exact and_not_mem_bodyPair r.charset f

theorem mapM_readPair? {l : List (String × String)} (h : ∀ f ∈ l, HoldsField e f) :
    (l.map (bodyPair e)).mapM (readPair? e) = some l := by
  induction l with
  | nil => rfl
  | cons f l ih =>
    obtain ⟨hf, hl⟩ := List.forall_mem_cons.mp h
    rw [List.map_cons, List.mapM_cons, readPair?_bodyPair hf, ih hl]
    rfl

theorem readBody?_formBody (h : r.HoldsForm) (hne : r.form ≠ .empty) :
    readBody? r.charset r.formBody = some r.form.toList := by
  rw [readBody?, splitAt_formBody hne, mapM_readPair? h]

/-- Only the empty form has the empty body. -/
theorem formBody_eq_empty_iff : r.formBody = "" ↔ r.form = .empty := by
  constructor
  · intro hbody
    apply Classical.byContradiction
    intro hne
    have hparts := splitAt_formBody hne
    rw [hbody] at hparts
    have hnil : [] ∈ r.form.toList.map (bodyPair r.charset) := by
      rw [← hparts]
      exact List.mem_singleton.mpr rfl
    obtain ⟨f, -, hpair⟩ := List.mem_map.mp hnil
    exact List.append_ne_nil_of_right_ne_nil _ (List.cons_ne_nil _ _) hpair
  · intro hform
    rw [formBody, hform]
    rfl

theorem formBody_eq_iff (hcharset : r.charset = q.charset) (hr : r.HoldsForm) (hq : q.HoldsForm) :
    r.formBody = q.formBody ↔ r.form = q.form := by
  constructor
  · intro hbody
    by_cases hempty : r.form = .empty
    · rw [hempty]
      rw [formBody_eq_empty_iff.mpr hempty] at hbody
      exact (formBody_eq_empty_iff.mp hbody.symm).symm
    · have hempty' : q.form ≠ .empty := fun h =>
        hempty (formBody_eq_empty_iff.mp (hbody.trans (formBody_eq_empty_iff.mpr h)))
      have hread := readBody?_formBody hr hempty
      rw [hcharset, hbody, readBody?_formBody hq hempty'] at hread
      exact Fields.ext (Option.some.inj hread).symm
  · intro hform
    rw [formBody, formBody, hform, hcharset]

/-- A form body is read back as the fields of the form, if the charset represents them exactly, and
only the empty form has the empty body. So forms that differ have bodies that differ. -/
theorem form_body_is_unambiguous (r : Request) :
    (r.charset = .utf8 → r.HoldsForm) ∧
    (r.HoldsForm → r.form ≠ .empty → readBody? r.charset r.formBody = some r.form.toList) ∧
    (r.formBody = "" ↔ r.form = .empty) ∧
    (∀ q : Request, r.charset = q.charset → r.HoldsForm → q.HoldsForm →
      (r.formBody = q.formBody ↔ r.form = q.form)) ∧
    ∀ q : Request, r.charset = .utf8 → q.charset = .utf8 → r.form ≠ q.form →
      r.formBody ≠ q.formBody := by
  refine ⟨holdsForm_of_eq_utf8, readBody?_formBody, formBody_eq_empty_iff,
    fun q => formBody_eq_iff, fun q hr hq hne hbody => hne ?_⟩
  exact (formBody_eq_iff (hr.trans hq.symm) (holdsForm_of_eq_utf8 hr)
    (holdsForm_of_eq_utf8 hq)).mp hbody

/-- A form with an empty name, an empty value, and separators within its names and values. -/
def tangled : Request where
  headers := .empty
  form := .ofList [("", ""), ("a", ""), ("b&c=", "x=1&y=2"), ("d", "50% +\n")]
  charset := .gbk

def untangled : Request := { tangled with form := .ofList (tangled.form.toList.drop 1) }

theorem tangled_body_is_read :
    readBody? .gbk tangled.formBody =
      some [("", ""), ("a", ""), ("b&c=", "x=1&y=2"), ("d", "50% +\n")] ∧
    tangled.formBody ≠ untangled.formBody ∧
    (Request.mk .empty tangled.form .utf8).formBody ≠
      (Request.mk .empty untangled.form .utf8).formBody := by
  have hholds : tangled.HoldsForm := by decide +kernel
  have hholds' : untangled.HoldsForm := by decide +kernel
  have hne : tangled.form ≠ untangled.form := by decide +kernel
  obtain ⟨-, hread, -, hiff, -⟩ := form_body_is_unambiguous tangled
  obtain ⟨-, -, -, -, hutf8⟩ := form_body_is_unambiguous ⟨.empty, tangled.form, .utf8⟩
  refine ⟨(hread hholds (by decide +kernel)).trans (by decide +kernel), ?_, hutf8 _ rfl rfl hne⟩
  exact fun hbody => hne ((hiff untangled rfl hholds hholds').mp hbody)

end ContentSource.Request
