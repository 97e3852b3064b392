import ContentSource.Session

/-! # Laws of actions

How an action made of two others ends, in terms of how the two end. A repetition goes through
finitely many rounds before it ends; it does not come to an end when one of its rounds does not, or
when there is always another round.
-/
namespace ContentSource.Act

variable {σ α β : Type}

theorem pure_apply (a : α) (s : Session σ) : (pure a : Act σ α) s = some (.ok a, s) := rfl

theorem bind_apply (x : Act σ α) (f : α → Act σ β) (s : Session σ) :
    (x >>= f) s =
      match x s with
      | none => none
      | some (.ok a, t) => f a t
      | some (.error e, t) => some (.error e, t) := by
  simp only [bind, ExceptT.bind, ExceptT.mk, StateT.bind, ExceptT.bindCont]
  rcases x s with _ | ⟨_ | _, _⟩ <;> rfl

section Bind

variable {x : Act σ α} {f : α → Act σ β} {s t : Session σ}

theorem bind_of_ok {a : α} (h : x s = some (.ok a, t)) : (x >>= f) s = f a t := by
  simp only [bind_apply, h]

theorem bind_of_error {e : PluginError} (h : x s = some (.error e, t)) :
    (x >>= f) s = some (.error e, t) := by
  simp only [bind_apply, h]

theorem bind_of_none (h : x s = none) : (x >>= f) s = none := by
  simp only [bind_apply, h]

theorem bind_congr {y : Act σ α} (h : x s = y t) : (x >>= f) s = (y >>= f) t := by
  simp only [bind_apply, h]

/-- Two actions one after the other end when the first stops with an error, or when the second
ends. -/
theorem bind_eq_some {out : Except PluginError β} (h : (x >>= f) s = some (out, t)) :
    (∃ e, out = .error e ∧ x s = some (.error e, t)) ∨
      ∃ a u, x s = some (.ok a, u) ∧ f a u = some (out, t) := by
  rw [bind_apply] at h
  rcases hx : x s with _ | ⟨e | a, u⟩
  · simp [hx] at h
  · simp only [hx, Option.some.injEq, Prod.mk.injEq] at h
    obtain ⟨rfl, rfl⟩ := h
    exact .inl ⟨e, rfl, rfl⟩
  · simp only [hx] at h
    exact .inr ⟨a, u, rfl, h⟩

end Bind

section Repetition

variable {step : α → Act σ (α ⊕ β)} {a b : α} {s t : Session σ}

inductive Repeats (step : α → Act σ (α ⊕ β)) (a : α) (s : Session σ) :
    Nat → α → Session σ → Prop
  | zero : Repeats step a s 0 a s
  | succ {i : Nat} {b c : α} {t u : Session σ} :
    Repeats step a s i b t → step b t = some (.ok (.inl c), u) → Repeats step a s (i + 1) c u

theorem Repeats.cons {c : α} {u : Session σ} {i : Nat} (h : step a s = some (.ok (.inl b), t))
    (hrest : Repeats step b t i c u) : Repeats step a s (i + 1) c u := by
  induction hrest with
  | zero => exact .succ .zero h
  | succ _ hlast ih => exact .succ ih hlast

theorem Repeats.unique {c : α} {u : Session σ} {i : Nat} (h : Repeats step a s i b t)
    (h' : Repeats step a s i c u) : b = c ∧ t = u := by
  induction h generalizing c u with
  | zero =>
    cases h'
    exact ⟨rfl, rfl⟩
  | succ _ hlast ih =>
    cases h' with
    | succ hrounds' hlast' =>
      obtain ⟨rfl, rfl⟩ := ih hrounds'
      simp only [hlast, Option.some.injEq, Prod.mk.injEq, Except.ok.injEq, Sum.inl.injEq] at hlast'
      exact hlast'

/-- What a repetition comes to is not changed by the rounds behind it. -/
theorem Repeats.repeatUntil_eq {i : Nat} (h : Repeats step a s i b t) :
    repeatUntil step a s = repeatUntil step b t := by
  induction h with
  | zero => rfl
  | succ _ hlast ih =>
    rw [ih, repeatUntil, hlast]
    rfl

theorem repeatUntil_eq_bind (step : α → Act σ (α ⊕ β)) (a : α) :
    repeatUntil step a = step a >>= fun
      | .inl b => repeatUntil step b
      | .inr r => pure r := by
  funext s
  rw [repeatUntil, bind_apply]
  rcases step a s with _ | ⟨e | b | r, t⟩ <;> rfl

theorem repeatUntil_of_result {r : β} (h : step a s = some (.ok (.inr r), t)) :
    repeatUntil step a s = some (.ok r, t) := by
  rw [repeatUntil, h]
  rfl

theorem repeatUntil_of_error {e : PluginError} (h : step a s = some (.error e, t)) :
    repeatUntil step a s = some (.error e, t) := by
  rw [repeatUntil, h]
  rfl

theorem repeatUntil_of_none (h : step a s = none) : repeatUntil step a s = none := by
  rw [repeatUntil, h]
  rfl

/-- A repetition that ends has gone through finitely many rounds and then a last one. -/
theorem repeatUntil_eq_some {out : Except PluginError β} (h : repeatUntil step a s = some (out, t)) :
    ∃ i b u, Repeats step a s i b u ∧ step b u = some (out.map .inr, t) := by
  refine repeatUntil.partial_correctness step
    (fun a s p => ∃ i b u, Repeats step a s i b u ∧ step b u = some (p.1.map .inr, p.2)) ?_
    a s (out, t) h
  intro again ih a s p hp
  rcases hstep : step a s with _ | ⟨e | c | r, u⟩
  · simp [hstep] at hp
  · simp only [hstep, Option.bind_eq_bind, Option.bind_some, Option.some.injEq] at hp
    subst hp
    exact ⟨0, a, s, .zero, hstep⟩
  · simp only [hstep, Option.bind_eq_bind, Option.bind_some] at hp
    obtain ⟨i, b, v, hrounds, hlast⟩ := ih c u p hp
    exact ⟨i + 1, b, v, .cons hstep hrounds, hlast⟩
  · simp only [hstep, Option.bind_eq_bind, Option.bind_some, Option.some.injEq] at hp
    subst hp
    exact ⟨0, a, s, .zero, hstep⟩

/-- A repetition does not come to an end exactly when one of its rounds does not, or when there is
always another round. -/
theorem repeatUntil_eq_none_iff :
    repeatUntil step a s = none ↔
      (∃ i b t, Repeats step a s i b t ∧ step b t = none) ∨
        ∀ i, ∃ b t, Repeats step a s i b t := by
  constructor
  · intro h
    by_cases hstuck : ∃ i b t, Repeats step a s i b t ∧ step b t = none
    · exact .inl hstuck
    · refine .inr fun i => ?_
      induction i with
      | zero => exact ⟨a, s, .zero⟩
      | succ i ih =>
        obtain ⟨b, t, hrounds⟩ := ih
        rcases hstep : step b t with _ | ⟨e | c | r, u⟩
        · exact absurd ⟨i, b, t, hrounds, hstep⟩ hstuck
        · rw [hrounds.repeatUntil_eq, repeatUntil_of_error hstep] at h
          cases h
        · exact ⟨c, u, .succ hrounds hstep⟩
        · rw [hrounds.repeatUntil_eq, repeatUntil_of_result hstep] at h
          cases h
  · rintro (⟨i, b, t, hrounds, hstep⟩ | hall)
    · rw [hrounds.repeatUntil_eq, repeatUntil_of_none hstep]
    · rcases h : repeatUntil step a s with _ | ⟨out, t⟩
      · rfl
      · -- The last round is at a fixed place, but another round leads on from there.
        obtain ⟨i, b, u, hrounds, hlast⟩ := repeatUntil_eq_some h
        obtain ⟨c, v, hmore⟩ := hall (i + 1)
        cases hmore with
        | succ hrounds' hnext =>
          obtain ⟨rfl, rfl⟩ := hrounds.unique hrounds'
          rw [hlast] at hnext
          cases out <;> cases hnext

end Repetition

end ContentSource.Act
