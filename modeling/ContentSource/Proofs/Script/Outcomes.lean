import ContentSource.Proofs.Script.Looking

/-! # How runs end

A run of several parts ends as its parts do, one after the other. It yields what the last part
yields where all parts before it have yielded something, and it fails where the first of them does
that has not.
-/
namespace ContentSource.Script.Run

variable {σ α β ε : Type} {c : Context σ} {m n : Machine σ} {a : α} {b : β} {e : ε} {s : Stop}

theorem act_bind_eq_ok_iff {x : Run σ α} {f : α → Run σ β} :
    (x >>= f).act c m = .ok b n ↔ ∃ a k, x.act c m = .ok a k ∧ (f a).act c k = .ok b n := by
  constructor
  · exact act_eq_ok_of_bind
  · rintro ⟨a, k, hx, hf⟩
    rw [act_bind_of_ok hx, hf]

/-- What becomes of an attempt: a value that is thrown is handed over, any other stop stays. -/
theorem act_attempt (x : Run σ α) :
    (attempt x).act c m =
      match x.act c m with
      | .ok a n => .ok (.ok a) n
      | .error (.thrown v) n => .ok (.error v) n
      | .error s n => .error s n := by
  change EStateM.bind ((ending x).act c) _ m = _
  simp only [EStateM.bind, ending]
  cases x.act c m with
  | ok a n => rfl
  | error s n => cases s <;> rfl

theorem attempt_ok_iff {x : Run σ α} :
    (attempt x).act c m = .ok (.ok a) n ↔ x.act c m = .ok a n := by
  rw [act_attempt]
  cases x.act c m with
  | ok b k => simp
  | error s k => cases s <;> simp

theorem attempt_error_iff {x : Run σ α} {v : Value} :
    (attempt x).act c m = .ok (.error v) n ↔ x.act c m = .error (.thrown v) n := by
  rw [act_attempt]
  cases x.act c m with
  | ok b k => simp
  | error s k => cases s <;> simp

/-! ## Runs that may fail for causes of their own -/

namespace Checked

variable {x : Checked σ ε α} {f : α → Checked σ ε β}

theorem pure_ok_iff {a' : α} :
    actOn (pure a : Checked σ ε α) c m = .ok (.ok a') n ↔ a' = a ∧ n = m := by
  change EStateM.Result.ok (Except.ok a) m = _ ↔ _
  simp [eq_comm]

theorem pure_not_error : actOn (pure a : Checked σ ε α) c m ≠ .ok (.error e) n := by
  intro h
  cases h

theorem throw_error_iff {e' : ε} :
    actOn (throw e : Checked σ ε α) c m = .ok (.error e') n ↔ e' = e ∧ n = m := by
  change EStateM.Result.ok (Except.error e) m = _ ↔ _
  simp [eq_comm]

theorem throw_not_ok : actOn (throw e : Checked σ ε α) c m ≠ .ok (.ok a) n := by
  intro h
  cases h

theorem bind_ok_iff :
    actOn (x >>= f) c m = .ok (.ok b) n ↔
      ∃ a k, x.actOn c m = .ok (.ok a) k ∧ (f a).actOn c k = .ok (.ok b) n := by
  constructor
  · intro h
    obtain ⟨r, k, hx, hf⟩ := act_eq_ok_of_bind h
    cases r with
    | ok a => exact ⟨a, k, hx, hf⟩
    | error e => cases hf
  · rintro ⟨a, k, hx, hf⟩
    rw [actOn_bind_of_ok hx, hf]

theorem bind_error_iff :
    actOn (x >>= f) c m = .ok (.error e) n ↔
      x.actOn c m = .ok (.error e) n ∨
        ∃ a k, x.actOn c m = .ok (.ok a) k ∧ (f a).actOn c k = .ok (.error e) n := by
  constructor
  · intro h
    obtain ⟨r, k, hx, hf⟩ := act_eq_ok_of_bind h
    cases r with
    | ok a => exact .inr ⟨a, k, hx, hf⟩
    | error e' =>
      cases hf
      exact .inl hx
  · rintro (hx | ⟨a, k, hx, hf⟩)
    · exact act_bind_of_ok hx
    · rw [actOn_bind_of_ok hx, hf]

theorem lift_ok_iff {y : Run σ α} :
    actOn (liftM y : Checked σ ε α) c m = .ok (.ok a) n ↔ y.act c m = .ok a n := by
  constructor
  · intro h
    obtain ⟨a', k, hy, hdone⟩ := act_eq_ok_of_bind h
    cases hdone
    exact hy
  · intro hy
    exact act_bind_of_ok hy

theorem lift_not_error {y : Run σ α} :
    actOn (liftM y : Checked σ ε α) c m ≠ .ok (.error e) n := by
  intro h
  obtain ⟨a', k, hy, hdone⟩ := act_eq_ok_of_bind h
  cases hdone

/-- Something is looked at first, and the rest goes on from there. -/
theorem actOn_bind_of_looks {y : Run σ α} {g : Machine σ → α} (h : Looks y g) :
    actOn (liftM y >>= f) c m = (f (g m)).actOn c m :=
  actOn_bind_of_ok (lift_ok_iff.mpr (h c m))

theorem refuse_act {v : Value} {f : Kind → ε} :
    actOn (liftM (kind v : Run σ Kind) >>= fun k => throw (f k) : Checked σ ε α) c m =
      .ok (.error (f (m.kindOf v))) m :=
  actOn_bind_of_looks (looks_kind v)

theorem found_error_iff {y : Run σ ε} :
    actOn (liftM y >>= throw : Checked σ ε α) c m = .ok (.error e) n ↔ y.act c m = .ok e n := by
  simp only [bind_error_iff, lift_not_error, lift_ok_iff, throw_error_iff, false_or]
  constructor
  · rintro ⟨e', k, hy, rfl, rfl⟩
    exact hy
  · exact fun hy => ⟨e, n, hy, rfl, rfl⟩

theorem found_not_ok {y : Run σ ε} :
    actOn (liftM y >>= throw : Checked σ ε α) c m ≠ .ok (.ok a) n := by
  simp [bind_ok_iff, throw_not_ok]

end Checked

section orElse

open Checked

variable {x : Run σ α} {cause : Value → Run σ ε}

theorem orElse_ok_iff : (orElse x cause).actOn c m = .ok (.ok a) n ↔ x.act c m = .ok a n := by
  rw [orElse, bind_ok_iff]
  simp only [lift_ok_iff]
  constructor
  · rintro ⟨r, k, hr, hrest⟩
    cases r with
    | ok a' =>
      obtain ⟨rfl, rfl⟩ := pure_ok_iff.mp hrest
      exact attempt_ok_iff.mp hr
    | error v => exact absurd hrest found_not_ok
  · intro hx
    exact ⟨.ok a, n, attempt_ok_iff.mpr hx, pure_ok_iff.mpr ⟨rfl, rfl⟩⟩

theorem orElse_error_iff :
    (orElse x cause).actOn c m = .ok (.error e) n ↔
      ∃ v k, x.act c m = .error (.thrown v) k ∧ (cause v).act c k = .ok e n := by
  rw [orElse, bind_error_iff]
  simp only [lift_ok_iff, lift_not_error, false_or]
  constructor
  · rintro ⟨r, k, hr, hrest⟩
    cases r with
    | ok a => exact absurd hrest pure_not_error
    | error v => exact ⟨v, k, attempt_error_iff.mp hr, found_error_iff.mp hrest⟩
  · rintro ⟨v, k, hx, hcause⟩
    exact ⟨.error v, k, attempt_error_iff.mpr hx, found_error_iff.mpr hcause⟩

/-- The cause may be the same for whatever is thrown. -/
theorem orElse_same_error_iff {e' : ε} :
    (orElse x fun _ => return e').actOn c m = .ok (.error e) n ↔
      (∃ v, x.act c m = .error (.thrown v) n) ∧ e = e' := by
  rw [orElse_error_iff]
  constructor
  · rintro ⟨v, k, hx, hdone⟩
    cases hdone
    exact ⟨⟨v, hx⟩, rfl⟩
  · rintro ⟨⟨v, hx⟩, rfl⟩
    exact ⟨v, n, hx, rfl⟩

end orElse

end ContentSource.Script.Run
