import ContentSource.Proofs.Script.HookErrors

/-! # Results of hooks

A hook that succeeds gives a text, written in a charset that can encode: the one that the object for
its request names. A label is refused there exactly when it is refused for any other request, and a
refused label leaves no result.
-/
namespace ContentSource

def Request.Writable (r : Request) : Prop := r.charset.output = r.charset

theorem Request.writable_iff {r : Request} : r.Writable ↔ r.charset.canEncode = true := by
  simp [Writable, Charset.canEncode]

/-- A response that a hook can give: its body is a text in the charset of its request, in which text
can be written, and it is where the hook was called. -/
def Response.FromHook (given a : Response) : Prop :=
  a.request.Writable ∧ ∃ text, a = .ofText text a.request given.location

namespace Script.Run

variable {σ α β ε : Type} {c : Context σ} {m n : Machine σ}

theorem act_bind_of_ok {x : Run σ α} {f : α → Run σ β} {a : α} (h : x.act c m = .ok a n) :
    (x >>= f).act c m = (f a).act c n := by
  change EStateM.bind (x.act c) (fun a => (f a).act c) m = _
  rw [EStateM.bind, h]

theorem act_eq_ok_of_bind {x : Run σ α} {f : α → Run σ β} {b : β}
    (h : (x >>= f).act c m = .ok b n) : ∃ a k, x.act c m = .ok a k ∧ (f a).act c k = .ok b n := by
  change EStateM.bind (x.act c) (fun a => (f a).act c) m = _ at h
  rw [EStateM.bind] at h
  cases hx : x.act c m with
  | ok a k => exact ⟨a, k, rfl, by simpa only [hx] using h⟩
  | error stop k =>
    rw [hx] at h
    cases h

namespace Checked

abbrev actOn (x : Checked σ ε α) (c : Context σ) (m : Machine σ) :
    EStateM.Result Stop (Machine σ) (Except ε α) :=
  (ExceptT.run x).act c m

theorem actOn_bind_of_ok {x : Checked σ ε α} {f : α → Checked σ ε β} {a : α}
    (h : x.actOn c m = .ok (.ok a) n) : actOn (x >>= f) c m = (f a).actOn c n :=
  act_bind_of_ok h

def Gives (x : Checked σ ε α) (P : α → Prop) : Prop :=
  Yields (ExceptT.run x) fun r => ∀ a, r = .ok a → P a

namespace Gives

variable {P : α → Prop} {Q : β → Prop}

theorem pure {a : α} (h : P a) : Gives (pure a : Checked σ ε α) P :=
  Yields.pure fun _ ha => by cases ha; exact h

theorem throw (e : ε) : Gives (throw e : Checked σ ε α) P :=
  Yields.pure fun _ ha => by cases ha

theorem anything (x : Checked σ ε α) : Gives x fun _ => True := fun _ _ _ _ _ _ _ => trivial

theorem bind {x : Checked σ ε α} {f : α → Checked σ ε β} (hx : Gives x P)
    (hf : ∀ a, P a → Gives (f a) Q) : Gives (x >>= f) Q := by
  refine Yields.bind hx fun r hr => ?_
  cases r with
  | ok a => exact hf a (hr a rfl)
  | error e => exact Yields.pure fun _ ha => by cases ha

end Gives

end Checked

/-! ## The request that a hook leaves behind -/

def readMaps (r : Ref) (charset : Charset) : Checked σ ResultError Request := do
  let headers ← readMap r "headers"
  let form ← readMap r "formData"
  return ⟨headers, form, charset⟩

theorem readMaps_gives (r : Ref) (charset : Charset) :
    (readMaps (σ := σ) r charset).Gives fun q => q.charset = charset := by
  refine .bind (.anything _) fun headers _ => ?_
  exact .bind (.anything _) fun form _ => .pure rfl

theorem readRequest_gives (r : Ref) : (readRequest (σ := σ) r).Gives Request.Writable := by
  refine .bind (.anything _) fun v _ => .bind (.anything _) fun label _ => ?_
  cases hlabel : Charset.ofLabel? label with
  | none => exact .throw _
  | some charset =>
    have hwritable : ∀ q : Request, q.charset = charset → q.Writable := by
      rintro q rfl
      exact Request.writable_iff.mpr (Charset.canEncode_of_ofLabel? hlabel)
    exact fun c m res k h q hq => hwritable q (readMaps_gives r charset h q hq)

def NotCharset (e : ResultError) : Prop := ∀ label, e ≠ .unknownCharset label

theorem wholeText_fails (place : String) (s : Text.Units) :
    (wholeText (σ := σ) place s).Fails NotCharset := by
  unfold wholeText
  cases s.toString with
  | ok t => exact .pure t
  | error n => exact .throw fun label h => by cases h

theorem textValue_fails (place : String) (v : Value) :
    (textValue (σ := σ) place v).Fails NotCharset := by
  have hother : Checked.Fails (liftM (kind v : Run σ Kind) >>= fun k =>
      throw (.notAString place k) : Checked σ ResultError String) NotCharset :=
    .found fun _ _ _ _ _ label h => by cases h
  cases v with
  | string s => exact wholeText_fails place s
  | _ => exact hother

theorem readPart_fails (r : Ref) (part : String) :
    (readPart (σ := σ) r part).Fails NotCharset :=
  orElse_fails fun _ => .pure fun label h => by cases h

theorem readFields_fails (r : Ref) (part : String) (keys : List Text.Units)
    (fields : Fields String) : (readFields (σ := σ) r part fields keys).Fails NotCharset := by
  induction keys generalizing fields with
  | nil => exact .pure fields
  | cons k rest ih =>
    refine .bind (wholeText_fails part k) fun key => ?_
    refine .bind (orElse_fails fun _ => .pure fun label h => by cases h) fun v => ?_
    exact .bind (textValue_fails _ v) fun text => ih _

theorem readMap_fails (r : Ref) (part : String) :
    (readMap (σ := σ) r part).Fails NotCharset := by
  refine .bind (readPart_fails r part) fun v => ?_
  have hother : Checked.Fails (liftM (kind v : Run σ Kind) >>= fun k =>
      throw (.notAnObject part k) : Checked σ ResultError (Fields String)) NotCharset :=
    .found fun _ _ _ _ _ label h => by cases h
  cases v with
  | object q => exact .bind (.lift _) fun names => readFields_fails q part names .empty
  | _ => exact hother

theorem readMaps_fails (r : Ref) (charset : Charset) :
    (readMaps (σ := σ) r charset).Fails NotCharset := by
  refine .bind (readMap_fails r _) fun headers => ?_
  exact .bind (readMap_fails r _) fun form => .pure _

/-- What becomes of a request whose object names a charset by a label. -/
theorem readRequest_of_label {r : Ref} {s : Text.Units} {label : String}
    (hv : (readPart r "encoding").actOn c m = .ok (.ok (.string s)) n)
    (hs : s.toString = .ok label) :
    (readRequest r).actOn c m =
      match Charset.ofLabel? label with
      | none => .ok (.error (.unknownCharset label)) n
      | some charset => (readMaps r charset).actOn c n := by
  have htext : (textValue (σ := σ) "encoding" (.string s)).actOn c n = .ok (.ok label) n := by
    simp only [textValue, wholeText, hs]
    rfl
  rw [readRequest, Checked.actOn_bind_of_ok hv, Checked.actOn_bind_of_ok htext]
  cases Charset.ofLabel? label <;> rfl

/-! ## The response of a hook -/

variable {script hook : String} {given : Response}

def conclude (given : Response) (text : String) (r : Ref) :
    Run σ (Except PluginError Response) := do
  match ← readRequest r with
  | .error e => return .error (.invalidResult e)
  | .ok request => return .ok (.ofText text request given.location)

theorem invokeHook_of_call {text : String} {r : Ref}
    (h : (callHook script hook given).actOn c m = .ok (.ok (text, r)) n) :
    (invokeHook script hook given).act c m = (conclude given text r).act c n :=
  act_bind_of_ok h

theorem invokeHook_gives (script hook : String) (given : Response) :
    (invokeHook (σ := σ) script hook given).Yields fun res =>
      ∀ a, res = .ok a → Response.FromHook given a := by
  refine Yields.bind (yields_true (ExceptT.run (callHook script hook given))) fun called _ => ?_
  cases called with
  | error e => exact .pure fun _ ha => by cases ha
  | ok called =>
    refine Yields.bind (readRequest_gives called.2) fun request hrequest => ?_
    cases request with
    | error e => exact .pure fun _ ha => by cases ha
    | ok request =>
      refine .pure fun a ha => ?_
      cases ha
      exact ⟨hrequest request rfl, called.1, rfl⟩

def NamesCharset (c : Context σ) (m : Machine σ) (script hook : String) (given : Response)
    (label : String) (n : Machine σ) : Prop :=
  ∃ text r k s, (callHook script hook given).actOn c m = .ok (.ok (text, r)) k ∧
    (readPart r "encoding").actOn c k = .ok (.ok (.string s)) n ∧ s.toString = .ok label

theorem invokeHook_of_refused {label : String} (h : NamesCharset c m script hook given label n)
    (hlabel : Charset.ofLabel? label = none) :
    (invokeHook script hook given).act c m =
      .ok (.error (.invalidResult (.unknownCharset label))) n := by
  obtain ⟨text, r, k, s, hcall, hv, hs⟩ := h
  have hread := readRequest_of_label hv hs
  rw [hlabel] at hread
  rw [invokeHook_of_call hcall, conclude]
  exact act_bind_of_ok hread

theorem invokeHook_of_accepted {label : String} {charset : Charset} {k : Machine σ}
    {res : Except PluginError Response} (h : NamesCharset c m script hook given label n)
    (hlabel : Charset.ofLabel? label = some charset)
    (hres : (invokeHook script hook given).act c m = .ok res k) :
    (∀ l, res ≠ .error (.invalidResult (.unknownCharset l))) ∧
      ∀ a, res = .ok a → a.request.charset = charset := by
  obtain ⟨text, r, j, s, hcall, hv, hs⟩ := h
  rw [invokeHook_of_call hcall, conclude] at hres
  obtain ⟨request, i, hread, hdone⟩ := act_eq_ok_of_bind hres
  have hmaps := (readRequest_of_label hv hs).symm.trans hread
  rw [hlabel] at hmaps
  cases request with
  | error e =>
    cases hdone
    refine ⟨fun l hl => ?_, fun a ha => ?_⟩
    · cases hl
      exact readMaps_fails r charset hmaps _ rfl l rfl
    · cases ha
  | ok request =>
    cases hdone
    refine ⟨fun l hl => ?_, fun a ha => ?_⟩
    · cases hl
    · cases ha
      exact readMaps_gives r charset hmaps request rfl

end Script.Run

end ContentSource
