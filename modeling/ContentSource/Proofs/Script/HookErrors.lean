import ContentSource.Script.Hook

/-! # Errors of hooks

A call of a hook fails for a reason of its own: the hook cannot be called, throws or gives no text,
or the request that it leaves behind cannot be read. It never fails with an error about another
script, though it may have reported some.
-/
namespace ContentSource.Script.Run

variable {σ α β ε : Type}

def Yields (x : Run σ α) (P : α → Prop) : Prop := ∀ ⦃c m a n⦄, x.act c m = .ok a n → P a

theorem Yields.pure {P : α → Prop} {a : α} (h : P a) : Yields (pure a : Run σ α) P := by
  intro c m b n hb
  cases hb
  exact h

theorem yields_true (x : Run σ α) : x.Yields fun _ => True := fun _ _ _ _ _ => trivial

theorem Yields.bind {P : α → Prop} {Q : β → Prop} {x : Run σ α} {f : α → Run σ β}
    (hx : x.Yields P) (hf : ∀ a, P a → (f a).Yields Q) : Yields (x >>= f) Q := by
  intro c m b n hb
  change EStateM.bind (x.act c) (fun a => (f a).act c) m = .ok b n at hb
  rw [EStateM.bind] at hb
  cases hm : x.act c m with
  | ok a k =>
    rw [hm] at hb
    exact hf a (hx hm) hb
  | error stop k =>
    rw [hm] at hb
    cases hb

def Checked.Fails (x : Checked σ ε α) (P : ε → Prop) : Prop :=
  Yields (ExceptT.run x) fun r => ∀ e, r = .error e → P e

namespace Checked.Fails

variable {P : ε → Prop}

theorem pure (a : α) : Checked.Fails (pure a : Checked σ ε α) P :=
  Yields.pure fun _ he => by cases he

theorem throw {e : ε} (h : P e) : Checked.Fails (throw e : Checked σ ε α) P :=
  Yields.pure fun _ he => by cases he; exact h

theorem lift (x : Run σ α) : Checked.Fails (liftM x : Checked σ ε α) P :=
  (yields_true x).bind fun _ _ => Yields.pure fun _ he => by cases he

theorem bind {x : Checked σ ε α} {f : α → Checked σ ε β} (hx : Checked.Fails x P)
    (hf : ∀ a, Checked.Fails (f a) P) : Checked.Fails (x >>= f) P := by
  refine Yields.bind hx fun r hr => ?_
  cases r with
  | ok a => exact hf a
  | error e => exact Yields.pure fun e' he => by cases he; exact hr e rfl

/-- The cause may have to be found first. -/
theorem found {x : Run σ α} {f : α → ε} (h : x.Yields fun a => P (f a)) :
    Checked.Fails (liftM x >>= fun a => MonadExcept.throw (f a) : Checked σ ε β) P := by
  have hlift : Yields (ExceptT.run (liftM x : Checked σ ε α)) fun r => ∃ a, r = .ok a ∧ P (f a) :=
    h.bind fun a ha => Yields.pure ⟨a, rfl, ha⟩
  refine hlift.bind fun r hr => ?_
  obtain ⟨a, rfl, ha⟩ := hr
  exact Checked.Fails.throw ha

end Checked.Fails

theorem orElse_fails {P : ε → Prop} {x : Run σ α} {cause : Value → Run σ ε}
    (h : ∀ v, (cause v).Yields P) : (orElse x cause).Fails P := by
  refine .bind (.lift _) fun r => ?_
  cases r with
  | ok a => exact .pure a
  | error v => exact .found (h v)

/-! ## Calls of hooks -/

/-- An error of the call itself, not one about another script. -/
def OfCall (e : InvokeError) : Prop := (PluginError.scriptInvoke e).isAboutScript = false

theorem hookFunction_fails (hook : String) : (hookFunction (σ := σ) hook).Fails OfCall := by
  refine .bind (orElse_fails fun v => .pure rfl) fun f => ?_
  refine .bind (.lift _) fun callable => ?_
  cases callable with
  | true => exact .pure f
  | false => exact .found fun _ _ _ _ _ => rfl

theorem hookText_fails (hook : String) (v : Value) : (hookText (σ := σ) hook v).Fails OfCall := by
  have other : Checked.Fails (liftM (kind v : Run σ Kind) >>= fun k =>
      throw (.notAString hook k) : Checked σ InvokeError String) OfCall :=
    .found fun _ _ _ _ _ => rfl
  cases v with
  | string s =>
    cases h : s.toString with
    | ok t => simpa only [hookText, h] using Checked.Fails.pure t
    | error n =>
      simp only [hookText, h]
      exact Checked.Fails.throw rfl
  | _ => exact other

theorem callHook_fails (script hook : String) (response : Response) :
    (callHook (σ := σ) script hook response).Fails OfCall := by
  refine .bind (hookFunction_fails hook) fun f => ?_
  refine .bind (orElse_fails fun v => .pure rfl) fun r => ?_
  refine .bind (orElse_fails fun v => ?_) fun v => ?_
  · exact (yields_true _).bind fun _ _ => .pure rfl
  · exact .bind (hookText_fails hook v) fun text => .pure (text, r)

def HookError (e : PluginError) : Prop :=
  (∃ cause, e = .scriptInvoke cause ∧ OfCall cause) ∨ ∃ cause, e = .invalidResult cause

theorem HookError.not_isAboutScript {e : PluginError} (h : HookError e) :
    e.isAboutScript = false := by
  rcases h with ⟨cause, rfl, hcause⟩ | ⟨cause, rfl⟩
  · exact hcause
  · rfl

theorem invokeHook_fails (script hook : String) (response : Response) :
    (invokeHook (σ := σ) script hook response).Yields fun r => ∀ e, r = .error e → HookError e := by
  refine Yields.bind (callHook_fails script hook response) fun r hr => ?_
  cases r with
  | error e => exact .pure fun _ he => by cases he; exact .inl ⟨e, rfl, hr e rfl⟩
  | ok called =>
    refine (yields_true _).bind fun request _ => ?_
    cases request with
    | error e => exact .pure fun _ he => by cases he; exact .inr ⟨e, rfl⟩
    | ok request => exact .pure fun _ he => by cases he

end ContentSource.Script.Run
