import ContentSource.Proofs.Fields
import ContentSource.Proofs.Script.Outcomes

/-! # Requests read from objects

An object stands for a request when it names a charset that can encode and its two parts are maps of
texts. The relations here say so step by step, and say what is wrong where it does not; the main
statements are that reading such an object does just that.

What is read of a part are its own enumerable properties with names. They are listed first and then
read one after the other, so a getter among them may change what the next ones are.
-/
namespace ContentSource.Script.Run

open Text (Units)

variable {σ : Type}

/-! ## Reading an object -/

def Reads (c : Context σ) (m : Machine σ) (r : Ref) (k : Key) (v : Value) (n : Machine σ) : Prop :=
  (getObject r k).act c m = .ok v n

def ReadThrows (c : Context σ) (m : Machine σ) (r : Ref) (k : Key) (n : Machine σ) : Prop :=
  ∃ v, (getObject r k).act c m = .error (.thrown v) n

inductive ReadsTexts (c : Context σ) (q : Ref) :
    Machine σ → List (String × String) → Machine σ → Prop
  | done (m : Machine σ) : ReadsTexts c q m [] m
  | next {m k n : Machine σ} {name text : String} {rest : List (String × String)}
    (h : Reads c m q (Key.ofString name) (.text text) k) (hrest : ReadsTexts c q k rest n) :
    ReadsTexts c q m ((name, text) :: rest) n

def ReadsMap (c : Context σ) (m : Machine σ) (r : Ref) (part : String) (fields : Fields String)
    (n : Machine σ) : Prop :=
  ∃ q k texts, Reads c m r (Key.ofString part) (.object q) k ∧
    k.names q = texts.map (fun p => Units.ofString p.1) ∧ ReadsTexts c q k texts n ∧
    fields = .ofList texts

/-- An object names a charset that can encode, and then its parts are two maps. -/
def HoldsRequest (c : Context σ) (m : Machine σ) (r : Ref) (request : Request)
    (n : Machine σ) : Prop :=
  ∃ label k j, Reads c m r (Key.ofString "encoding") (.text label) k ∧
    Charset.ofLabel? label = some request.charset ∧
    ReadsMap c k r "headers" request.headers j ∧ ReadsMap c j r "formData" request.form n

inductive NoText (m : Machine σ) (place : String) : Value → ResultError → Prop
  | other {v : Value} (h : ∀ s, v ≠ .string s) :
    NoText m place v (.notAString place (m.kindOf v))
  | broken {s : Units} {bytes : Nat} (h : s.toString = .error bytes) :
    NoText m place (.string s) (.unreadable place (brokenText bytes))

inductive TextRefused (c : Context σ) (m : Machine σ) (r : Ref) (k : Key) (part place : String) :
    ResultError → Machine σ → Prop
  | thrown {n : Machine σ} (h : ReadThrows c m r k n) :
    TextRefused c m r k part place (.unreadable part unreadable) n
  | value {n : Machine σ} {v : Value} {e : ResultError} (h : Reads c m r k v n)
    (hv : NoText n place v e) : TextRefused c m r k part place e n

inductive EntryRefused (c : Context σ) (q : Ref) (part : String) :
    Machine σ → List Units → ResultError → Machine σ → Prop
  | name {m : Machine σ} {u : Units} {rest : List Units} {bytes : Nat}
    (h : u.toString = .error bytes) :
    EntryRefused c q part m (u :: rest) (.unreadable part (brokenText bytes)) m
  | entry {m n : Machine σ} {name : String} {rest : List Units} {e : ResultError}
    (h : TextRefused c m q (Key.ofString name) part (placeOf part (some name)) e n) :
    EntryRefused c q part m (Units.ofString name :: rest) e n
  | later {m k n : Machine σ} {name text : String} {rest : List Units} {e : ResultError}
    (h : Reads c m q (Key.ofString name) (.text text) k)
    (hrest : EntryRefused c q part k rest e n) :
    EntryRefused c q part m (Units.ofString name :: rest) e n

/-- A part of an object is no map of texts. -/
inductive MapRefused (c : Context σ) (m : Machine σ) (r : Ref) (part : String) :
    ResultError → Machine σ → Prop
  | thrown {n : Machine σ} (h : ReadThrows c m r (Key.ofString part) n) :
    MapRefused c m r part (.unreadable part unreadable) n
  | other {n : Machine σ} {v : Value} (h : Reads c m r (Key.ofString part) v n)
    (hv : ∀ q, v ≠ .object q) : MapRefused c m r part (.notAnObject part (n.kindOf v)) n
  | entry {k n : Machine σ} {q : Ref} {e : ResultError}
    (h : Reads c m r (Key.ofString part) (.object q) k)
    (hentry : EntryRefused c q part k (k.names q) e n) : MapRefused c m r part e n

/-- An object stands for no request; the first thing that is wrong counts. -/
inductive RequestRefused (c : Context σ) (m : Machine σ) (r : Ref) :
    ResultError → Machine σ → Prop
  | encoding {n : Machine σ} {e : ResultError}
    (h : TextRefused c m r (Key.ofString "encoding") "encoding" "encoding" e n) :
    RequestRefused c m r e n
  | charset {n : Machine σ} {label : String}
    (h : Reads c m r (Key.ofString "encoding") (.text label) n)
    (hlabel : Charset.ofLabel? label = none) : RequestRefused c m r (.unknownCharset label) n
  | headers {k n : Machine σ} {label : String} {charset : Charset} {e : ResultError}
    (h : Reads c m r (Key.ofString "encoding") (.text label) k)
    (hlabel : Charset.ofLabel? label = some charset)
    (hheaders : MapRefused c k r "headers" e n) : RequestRefused c m r e n
  | form {k j n : Machine σ} {label : String} {charset : Charset} {headers : Fields String}
    {e : ResultError} (h : Reads c m r (Key.ofString "encoding") (.text label) k)
    (hlabel : Charset.ofLabel? label = some charset)
    (hheaders : ReadsMap c k r "headers" headers j)
    (hform : MapRefused c j r "formData" e n) : RequestRefused c m r e n

section

variable {c : Context σ} {m n : Machine σ} {r q : Ref} {e : ResultError}

/-! Each of these relations says what one reader does. -/

theorem wholeText_ok_iff {place : String} {s : Units} {t : String} :
    (wholeText place s).actOn c m = .ok (.ok t) n ↔ s = Units.ofString t ∧ n = m := by
  rw [← Units.toString_eq_ok_iff, wholeText]
  cases hs : s.toString with
  | ok t' =>
    simp only [Checked.pure_ok_iff, Except.ok.injEq]
    exact and_congr_left' eq_comm
  | error bytes => simp [Checked.throw_not_ok]

theorem wholeText_error_iff {place : String} {s : Units} :
    (wholeText place s).actOn c m = .ok (.error e) n ↔
      ∃ bytes, s.toString = .error bytes ∧ e = .unreadable place (brokenText bytes) ∧ n = m := by
  rw [wholeText]
  cases hs : s.toString with
  | ok t => simp [Checked.pure_not_error]
  | error bytes => simp [Checked.throw_error_iff]

/-- What is no string is refused with its kind. -/
theorem textValue_of_other {place : String} {v : Value} (h : ∀ s, v ≠ .string s) :
    (textValue place v).actOn c m = .ok (.error (.notAString place (m.kindOf v))) m := by
  cases v with
  | string s => exact absurd rfl (h s)
  | _ => exact Checked.refuse_act (f := ResultError.notAString place)

theorem textValue_ok_iff {place : String} {v : Value} {t : String} :
    (textValue place v).actOn c m = .ok (.ok t) n ↔ v = .text t ∧ n = m := by
  by_cases h : ∃ s, v = .string s
  · obtain ⟨s, rfl⟩ := h
    simp only [textValue, wholeText_ok_iff, Value.text, Value.string.injEq]
  · simp only [not_exists] at h
    rw [textValue_of_other h]
    simp only [EStateM.Result.ok.injEq, reduceCtorEq, false_and, false_iff, not_and]
    exact fun hv => absurd hv (h _)

theorem textValue_error_iff {place : String} {v : Value} :
    (textValue place v).actOn c m = .ok (.error e) n ↔ NoText m place v e ∧ n = m := by
  by_cases h : ∃ s, v = .string s
  · obtain ⟨s, rfl⟩ := h
    rw [textValue, wholeText_error_iff]
    constructor
    · rintro ⟨bytes, hs, rfl, rfl⟩
      exact ⟨.broken hs, rfl⟩
    · rintro ⟨hv, rfl⟩
      cases hv with
      | other h => exact absurd rfl (h s)
      | broken hs => exact ⟨_, hs, rfl, rfl⟩
  · simp only [not_exists] at h
    rw [textValue_of_other h]
    constructor
    · intro heq
      cases heq
      exact ⟨.other h, rfl⟩
    · rintro ⟨hv, rfl⟩
      cases hv with
      | other h => rfl
      | broken hs => exact absurd rfl (h _)

theorem readPart_ok_iff {part : String} {v : Value} :
    (readPart r part).actOn c m = .ok (.ok v) n ↔ Reads c m r (Key.ofString part) v n :=
  orElse_ok_iff

theorem readPart_error_iff {part : String} :
    (readPart r part).actOn c m = .ok (.error e) n ↔
      ReadThrows c m r (Key.ofString part) n ∧ e = .unreadable part unreadable :=
  orElse_same_error_iff

theorem readFields_ok_iff {part : String} {fields res : Fields String} {keys : List Units} :
    (readFields q part fields keys).actOn c m = .ok (.ok res) n ↔
      ∃ texts, keys = texts.map (fun p => Units.ofString p.1) ∧ ReadsTexts c q m texts n ∧
        res = fields.insertAll texts := by
  -- Each reading may change the machine, so the names left are read in any machine.
  induction keys generalizing fields m with
  | nil =>
    rw [readFields, Checked.pure_ok_iff]
    constructor
    · rintro ⟨rfl, rfl⟩
      exact ⟨[], rfl, .done _, rfl⟩
    · rintro ⟨texts, htexts, hreads, rfl⟩
      obtain rfl : texts = [] := by simpa using htexts.symm
      cases hreads
      exact ⟨rfl, rfl⟩
  | cons u rest ih =>
    simp only [readFields, Checked.bind_ok_iff, wholeText_ok_iff, orElse_ok_iff, textValue_ok_iff,
      ih]
    constructor
    · rintro ⟨name, k, ⟨rfl, rfl⟩, v, j, hread, text, i, ⟨rfl, rfl⟩, texts, rfl, hreads, rfl⟩
      exact ⟨(name, text) :: texts, rfl, .next hread hreads, rfl⟩
    · rintro ⟨texts, htexts, hreads, rfl⟩
      cases hreads with
      | done => cases htexts
      | next hread hrest =>
        obtain ⟨rfl, rfl⟩ := List.cons.inj htexts
        exact ⟨_, _, ⟨rfl, rfl⟩, _, _, hread, _, _, ⟨rfl, rfl⟩, _, rfl, hrest, rfl⟩

theorem readFields_error_iff {part : String} {fields : Fields String} {keys : List Units} :
    (readFields q part fields keys).actOn c m = .ok (.error e) n ↔
      EntryRefused c q part m keys e n := by
  induction keys generalizing fields m with
  | nil =>
    refine iff_of_false Checked.pure_not_error ?_
    rintro ⟨⟩
  | cons u rest ih =>
    simp only [readFields, Checked.bind_error_iff, wholeText_ok_iff, wholeText_error_iff,
      orElse_ok_iff, orElse_same_error_iff, textValue_ok_iff, textValue_error_iff, ih]
    constructor
    · rintro (⟨bytes, hu, rfl, rfl⟩ | ⟨name, k, ⟨rfl, rfl⟩, (⟨hthrows, rfl⟩ |
        ⟨v, j, hread, (⟨hv, rfl⟩ | ⟨text, i, ⟨rfl, rfl⟩, hrest⟩)⟩)⟩)
      · exact .name hu
      · exact .entry (.thrown hthrows)
      · exact .entry (.value hread hv)
      · exact .later hread hrest
    · rintro (hu | hentry | ⟨hread, hrest⟩)
      · exact .inl ⟨_, hu, rfl, rfl⟩
      · refine .inr ⟨_, m, ⟨rfl, rfl⟩, ?_⟩
        cases hentry with
        | thrown h => exact .inl ⟨h, rfl⟩
        | value h hv => exact .inr ⟨_, _, h, .inl ⟨hv, rfl⟩⟩
      · exact .inr ⟨_, m, ⟨rfl, rfl⟩, .inr ⟨_, _, hread, .inr ⟨_, _, ⟨rfl, rfl⟩, hrest⟩⟩⟩

theorem readMap_of_other {part : String} {v : Value} (hread : Reads c m r (Key.ofString part) v n)
    (h : ∀ q, v ≠ .object q) :
    (readMap r part).actOn c m = .ok (.error (.notAnObject part (n.kindOf v))) n := by
  rw [readMap, Checked.actOn_bind_of_ok (readPart_ok_iff.mpr hread)]
  cases v with
  | object q => exact absurd rfl (h q)
  | _ => exact Checked.refuse_act (f := ResultError.notAnObject part)

theorem readMap_of_object {part : String} {k : Machine σ}
    (hread : Reads c m r (Key.ofString part) (.object q) k) :
    (readMap r part).actOn c m = (readFields q part .empty (k.names q)).actOn c k := by
  rw [readMap, Checked.actOn_bind_of_ok (readPart_ok_iff.mpr hread)]
  exact Checked.actOn_bind_of_looks (looks_enumerableNames q)

theorem readMap_ok_iff {part : String} {fields : Fields String} :
    (readMap r part).actOn c m = .ok (.ok fields) n ↔ ReadsMap c m r part fields n := by
  constructor
  · intro h
    obtain ⟨v, k, hread, -⟩ := Checked.bind_ok_iff.mp h
    replace hread := readPart_ok_iff.mp hread
    by_cases hv : ∃ q, v = .object q
    · obtain ⟨q, rfl⟩ := hv
      rw [readMap_of_object hread, readFields_ok_iff] at h
      obtain ⟨texts, hnames, hreads, rfl⟩ := h
      exact ⟨q, k, texts, hread, hnames, hreads, rfl⟩
    · simp only [not_exists] at hv
      rw [readMap_of_other hread hv] at h
      cases h
  · rintro ⟨q, k, texts, hread, hnames, hreads, rfl⟩
    rw [readMap_of_object hread, readFields_ok_iff]
    exact ⟨texts, hnames, hreads, rfl⟩

theorem readMap_error_iff {part : String} :
    (readMap r part).actOn c m = .ok (.error e) n ↔ MapRefused c m r part e n := by
  constructor
  · intro h
    rcases Checked.bind_error_iff.mp h with hpart | ⟨v, k, hread, -⟩
    · obtain ⟨hthrows, rfl⟩ := readPart_error_iff.mp hpart
      exact .thrown hthrows
    · replace hread := readPart_ok_iff.mp hread
      by_cases hv : ∃ q, v = .object q
      · obtain ⟨q, rfl⟩ := hv
        rw [readMap_of_object hread, readFields_error_iff] at h
        exact .entry hread h
      · simp only [not_exists] at hv
        rw [readMap_of_other hread hv] at h
        cases h
        exact .other hread hv
  · intro h
    cases h with
    | thrown hthrows =>
      exact Checked.bind_error_iff.mpr (.inl (readPart_error_iff.mpr ⟨hthrows, rfl⟩))
    | other hread hv => exact readMap_of_other hread hv
    | entry hread hentry =>
      rw [readMap_of_object hread, readFields_error_iff]
      exact hentry

theorem readRequest_ok_iff {request : Request} :
    (readRequest r).actOn c m = .ok (.ok request) n ↔ HoldsRequest c m r request n := by
  simp only [readRequest, Checked.bind_ok_iff, readPart_ok_iff, textValue_ok_iff]
  constructor
  · rintro ⟨v, k, hread, label, k', ⟨rfl, rfl⟩, hrest⟩
    cases hlabel : Charset.ofLabel? label with
    | none =>
      rw [hlabel] at hrest
      exact absurd hrest Checked.throw_not_ok
    | some charset =>
      simp only [hlabel, Checked.bind_ok_iff, readMap_ok_iff, Checked.pure_ok_iff] at hrest
      obtain ⟨headers, j, hheaders, form, i, hform, rfl, rfl⟩ := hrest
      exact ⟨label, k', j, hread, hlabel, hheaders, hform⟩
  · rintro ⟨label, k, j, hread, hlabel, hheaders, hform⟩
    refine ⟨.text label, k, hread, label, k, ⟨rfl, rfl⟩, ?_⟩
    simp only [hlabel, Checked.bind_ok_iff, readMap_ok_iff, Checked.pure_ok_iff]
    exact ⟨request.headers, j, hheaders, request.form, n, hform, rfl, rfl⟩

theorem readRequest_error_iff :
    (readRequest r).actOn c m = .ok (.error e) n ↔ RequestRefused c m r e n := by
  simp only [readRequest, Checked.bind_error_iff, readPart_ok_iff, readPart_error_iff,
    textValue_ok_iff, textValue_error_iff]
  constructor
  · rintro (⟨hthrows, rfl⟩ | ⟨v, k, hread, (⟨hv, rfl⟩ | ⟨label, k', ⟨rfl, rfl⟩, hrest⟩)⟩)
    · exact .encoding (.thrown hthrows)
    · exact .encoding (.value hread hv)
    · cases hlabel : Charset.ofLabel? label with
      | none =>
        simp only [hlabel, Checked.throw_error_iff] at hrest
        obtain ⟨rfl, rfl⟩ := hrest
        exact .charset hread hlabel
      | some charset =>
        simp only [hlabel, Checked.bind_error_iff, readMap_ok_iff, readMap_error_iff,
          Checked.pure_not_error, and_false, exists_false, or_false] at hrest
        rcases hrest with hheaders | ⟨headers, j, hheaders, hform⟩
        · exact .headers hread hlabel hheaders
        · exact .form hread hlabel hheaders hform
  · intro h
    cases h with
    | encoding h =>
      cases h with
      | thrown hthrows => exact .inl ⟨hthrows, rfl⟩
      | value hread hv => exact .inr ⟨_, n, hread, .inl ⟨hv, rfl⟩⟩
    | charset hread hlabel =>
      refine .inr ⟨_, n, hread, .inr ⟨_, n, ⟨rfl, rfl⟩, ?_⟩⟩
      simp only [hlabel, Checked.throw_error_iff, and_self]
    | headers hread hlabel hheaders =>
      refine .inr ⟨_, _, hread, .inr ⟨_, _, ⟨rfl, rfl⟩, ?_⟩⟩
      simp only [hlabel, Checked.bind_error_iff, readMap_error_iff]
      exact .inl hheaders
    | form hread hlabel hheaders hform =>
      refine .inr ⟨_, _, hread, .inr ⟨_, _, ⟨rfl, rfl⟩, ?_⟩⟩
      simp only [hlabel, Checked.bind_error_iff, readMap_ok_iff, readMap_error_iff]
      exact .inr ⟨_, _, hheaders, .inl hform⟩

end

end ContentSource.Script.Run
