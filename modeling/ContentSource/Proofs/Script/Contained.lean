import ContentSource.Proofs.Script.Outcomes

/-! # Hooks that throw

Whatever is thrown while a hook is called, while the thrown value is reported on, or while a request
is read, stays inside: it becomes an error, and the run yields that error. A run stops only where
code in it is given up or waits.
-/
namespace ContentSource.Script.Run

variable {σ α β ε : Type}

/-- Nothing that is thrown inside is thrown on. -/
def NeverThrows (x : Run σ α) : Prop := ∀ ⦃c m v n⦄, x.act c m ≠ .error (.thrown v) n

theorem Looks.neverThrows {x : Run σ α} {f : Machine σ → α} (h : Looks x f) : x.NeverThrows := by
  intro c m v n hx
  rw [h c m] at hx
  cases hx

theorem NeverThrows.pure (a : α) : NeverThrows (pure a : Run σ α) := (Looks.pure a).neverThrows

theorem NeverThrows.bind {x : Run σ α} {f : α → Run σ β} (hx : x.NeverThrows)
    (hf : ∀ a, (f a).NeverThrows) : NeverThrows (x >>= f) := by
  intro c m v n h
  change EStateM.bind (x.act c) (fun a => (f a).act c) m = _ at h
  rw [EStateM.bind] at h
  cases hm : x.act c m with
  | ok a k =>
    rw [hm] at h
    exact hf a h
  | error s k =>
    rw [hm] at h
    cases h
    exact hx hm

theorem neverThrows_attempt (x : Run σ α) : (attempt x).NeverThrows := by
  intro c m v n h
  rw [act_attempt] at h
  cases hx : x.act c m with
  | ok a k => simp [hx] at h
  | error s k => cases s <;> simp [hx] at h

theorem NeverThrows.attempted {x : Run σ α} {f : Except Value α → Run σ β}
    (hok : ∀ a, (f (.ok a)).NeverThrows) (herror : ∀ v, (f (.error v)).NeverThrows) :
    NeverThrows (attempt x >>= f) := by
  refine (neverThrows_attempt x).bind fun r => ?_
  cases r with
  | ok a => exact hok a
  | error v => exact herror v

def Checked.NeverThrows (x : Checked σ ε α) : Prop := Run.NeverThrows (ExceptT.run x)

namespace Checked.NeverThrows

theorem pure (a : α) : Checked.NeverThrows (pure a : Checked σ ε α) :=
  Run.NeverThrows.pure (Except.ok a)

theorem throw (e : ε) : Checked.NeverThrows (throw e : Checked σ ε α) :=
  Run.NeverThrows.pure (Except.error e)

theorem lift {x : Run σ α} (h : x.NeverThrows) :
    Checked.NeverThrows (liftM x : Checked σ ε α) :=
  Run.NeverThrows.bind h fun a => Run.NeverThrows.pure (Except.ok a)

theorem bind {x : Checked σ ε α} {f : α → Checked σ ε β} (hx : Checked.NeverThrows x)
    (hf : ∀ a, Checked.NeverThrows (f a)) : Checked.NeverThrows (x >>= f) := by
  refine Run.NeverThrows.bind hx fun r => ?_
  cases r with
  | ok a => exact hf a
  | error e => exact Run.NeverThrows.pure (Except.error e)

theorem orElse {x : Run σ α} {cause : Value → Run σ ε} (h : ∀ v, (cause v).NeverThrows) :
    Checked.NeverThrows (orElse x cause) := by
  refine .bind (.lift (neverThrows_attempt x)) fun r => ?_
  cases r with
  | ok a => exact .pure a
  | error v => exact .bind (.lift (h v)) fun e => .throw e

/-- A cause that is found by looking at a value. -/
theorem kind (v : Value) (f : Kind → ε) :
    Checked.NeverThrows (liftM (kind v : Run σ Kind) >>= fun k => MonadExcept.throw (f k) :
      Checked σ ε α) :=
  .bind (.lift (looks_kind v).neverThrows) fun k => .throw (f k)

end Checked.NeverThrows

/-! ## Reports -/

theorem neverThrows_textProperty (r : Ref) (name : String) :
    (textProperty (σ := σ) r name).NeverThrows := by
  refine .attempted (fun v => ?_) fun _ => .pure none
  by_cases hv : v.isMissing = true
  · simp only [hv]
    exact .pure none
  · simp only [hv]
    exact .attempted (fun s => .pure s.toString?) fun _ => .pure none

theorem neverThrows_intProperty (r : Ref) (name : String) :
    (intProperty (σ := σ) r name).NeverThrows := by
  refine .attempted (fun v => ?_) fun _ => .pure none
  by_cases hv : v.isMissing = true
  · simp only [hv]
    exact .pure none
  · simp only [hv]
    exact .attempted (fun n => .pure (some n.toInt32)) fun _ => .pure none

theorem neverThrows_caughtError (r : Ref) : (caughtError (σ := σ) r).NeverThrows := by
  refine (neverThrows_textProperty r _).bind fun stack => ?_
  refine (neverThrows_textProperty r _).bind fun message => ?_
  exact (neverThrows_intProperty r _).bind fun line => .pure _

theorem neverThrows_shown (v : Value) : (shown (σ := σ) v).NeverThrows := by
  have hkind : NeverThrows (σ := σ) (do return (← kind v).name ++ "(0x)") :=
    (looks_kind v).neverThrows.bind fun k => .pure _
  cases v with
  | number n => cases n <;> exact .pure _
  | string s =>
    simp only [shown]
    cases s.toString <;> exact .pure _
  | undefined | null | bool => exact .pure _
  | _ => exact hkind

theorem neverThrows_isError (v : Value) : (isError (σ := σ) v).NeverThrows := by
  cases v with
  | object r =>
    refine (looks_object r).neverThrows.bind fun o => ?_
    cases o.cls <;> exact .pure _
  | _ => exact .pure none

theorem neverThrows_describe (script : String) (v : Value) :
    (describe (σ := σ) script v).NeverThrows := by
  refine (neverThrows_isError v).bind fun r => ?_
  cases r with
  | some r => exact (neverThrows_caughtError r).bind fun e => .pure _
  | none => exact (neverThrows_shown v).bind fun s => .pure _

/-! ## Requests and hooks -/

theorem neverThrows_wholeText (place : String) (s : Text.Units) :
    Checked.NeverThrows (wholeText (σ := σ) place s) := by
  unfold wholeText
  cases s.toString with
  | ok t => exact .pure t
  | error bytes => exact .throw _

theorem neverThrows_textValue (place : String) (v : Value) :
    Checked.NeverThrows (textValue (σ := σ) place v) := by
  cases v with
  | string s => exact neverThrows_wholeText place s
  | _ => exact .kind _ (ResultError.notAString place)

theorem neverThrows_readFields (r : Ref) (part : String) (keys : List Text.Units)
    (fields : Fields String) :
    Checked.NeverThrows (readFields (σ := σ) r part fields keys) := by
  induction keys generalizing fields with
  | nil => exact .pure fields
  | cons k rest ih =>
    refine .bind (neverThrows_wholeText part k) fun key => ?_
    refine .bind (.orElse fun _ => .pure _) fun v => ?_
    exact .bind (neverThrows_textValue _ v) fun text => ih _

theorem neverThrows_readMap (r : Ref) (part : String) :
    Checked.NeverThrows (readMap (σ := σ) r part) := by
  refine .bind (.orElse fun _ => .pure _) fun v => ?_
  cases v with
  | object q =>
    exact .bind (.lift (looks_enumerableNames q).neverThrows) fun us =>
      neverThrows_readFields q part us .empty
  | _ => exact .kind _ (ResultError.notAnObject part)

theorem neverThrows_readRequest (r : Ref) : Checked.NeverThrows (readRequest (σ := σ) r) := by
  refine .bind (.orElse fun _ => .pure _) fun v => ?_
  refine .bind (neverThrows_textValue _ v) fun label => ?_
  cases Charset.ofLabel? label with
  | none => exact .throw _
  | some charset =>
    refine .bind (neverThrows_readMap r _) fun headers => ?_
    exact .bind (neverThrows_readMap r _) fun form => .pure _

theorem neverThrows_callHook (script hook : String) (given : Response) :
    Checked.NeverThrows (callHook (σ := σ) script hook given) := by
  refine .bind (.bind (.orElse fun _ => .pure _) fun f => ?_) fun f => ?_
  · refine .bind (.lift (looks_isCallable f).neverThrows) fun callable => ?_
    cases callable with
    | true => exact .pure f
    | false => exact .kind f (InvokeError.notAFunction hook)
  · refine .bind (.orElse fun _ => .pure _) fun r => ?_
    have hreport := neverThrows_describe (σ := σ) script
    refine .bind (.orElse fun v => (hreport v).bind fun _ => .pure _) fun v => ?_
    refine .bind ?_ fun text => .pure (text, r)
    cases v with
    | string s =>
      simp only [hookText]
      cases s.toString with
      | ok t => exact .pure t
      | error bytes => exact .throw _
    | _ => exact .kind _ (InvokeError.notAString hook)

theorem neverThrows_invokeHook (script hook : String) (given : Response) :
    (invokeHook (σ := σ) script hook given).NeverThrows := by
  refine Run.NeverThrows.bind (neverThrows_callHook script hook given) fun called => ?_
  cases called with
  | error e => exact .pure _
  | ok called =>
    refine Run.NeverThrows.bind (neverThrows_readRequest called.2) fun request => ?_
    cases request <;> exact .pure _

end ContentSource.Script.Run
