import ContentSource.Proofs.Script.Outcomes

/-! # Runs inside runs

A run that is under way comes to other runs: to its parts, one after the other, and to the code that
is nested in it. Whatever is told before it comes to such a run, and whatever is told after that run
has ended, is something that a script can bring about.
-/
namespace ContentSource.Script

open Run

variable {σ : Type} {g : Setting σ}

inductive Reaches (g : Setting σ) {β : Type} (y : Run σ β) (j : Nat) (k : Machine σ) :
    {α : Type} → Run σ α → Nat → Machine σ → Prop
  | here : Reaches g y j k y j k
  | first {α γ : Type} {x : Run σ γ} {f : γ → Run σ α} {i : Nat} {m : Machine σ} :
    Reaches g y j k x i m → Reaches g y j k (x >>= f) i m
  | next {α γ : Type} {x : Run σ γ} {f : γ → Run σ α} {a : γ} {i : Nat} {m n : Machine σ} :
    x.act (contextAt g i) m = .ok a n → Reaches g y j k (f a) i n → Reaches g y j k (x >>= f) i m
  | ending {α : Type} {x : Run σ α} {i : Nat} {m : Machine σ} :
    Reaches g y j k x i m → Reaches g y j k (ending x) i m
  | inside {α : Type} {x x' : Run σ α} {i i' : Nat} {m : Machine σ} :
    x.act (contextAt g i) = x'.act (contextAt g i') → Reaches g y j k x' i' m →
    Reaches g y j k x i m

theorem Run.act_isHonest_at {α : Type} (x : Run σ α) (g : Setting σ) (i : Nat) :
    (x.act (contextAt g i)).IsHonest g.plugin g.request := by
  simpa using x.honest _ (contextAt_isHonest g i)

def Adds (g : Setting σ) (m n : Machine σ) : Prop :=
  ∃ told, n.events = told ++ m.events ∧ ∀ e ∈ told, Told g.plugin g.request e

namespace Adds

variable {m n o : Machine σ}

theorem refl (m : Machine σ) : Adds g m m := ⟨[], rfl, by simp⟩

theorem trans (h : Adds g m n) (h' : Adds g n o) : Adds g m o := by
  obtain ⟨told, htold, hall⟩ := h
  obtain ⟨more, hmore, hall'⟩ := h'
  refine ⟨more ++ told, by rw [hmore, htold, List.append_assoc], fun e he => ?_⟩
  rcases List.mem_append.mp he with he | he
  · exact hall' e he
  · exact hall e he

theorem of_act {α : Type} (x : Run σ α) (i : Nat) (m : Machine σ) :
    Adds g m ((x.act (contextAt g i)).after m) := x.act_isHonest_at g i m

theorem of_ok {α : Type} {x : Run σ α} {i : Nat} {a : α} (h : x.act (contextAt g i) m = .ok a n) :
    Adds g m n := by
  have hall := of_act (g := g) x i m
  rwa [Action.after, h] at hall

end Adds

theorem after_bind {α γ : Type} (x : Run σ γ) (f : γ → Run σ α) (c : Context σ) (m : Machine σ) :
    ((x >>= f).act c).after m =
      match x.act c m with
      | .ok a n => ((f a).act c).after n
      | .error _ n => n := by
  change Action.after (EStateM.bind (x.act c) fun a => (f a).act c) m = _
  simp only [Action.after, EStateM.bind]
  cases x.act c m <;> rfl

theorem after_ending {α : Type} (x : Run σ α) (c : Context σ) (m : Machine σ) :
    ((ending x).act c).after m = (x.act c).after m := by
  simp only [Action.after, ending]
  cases x.act c m <;> rfl

section Wrapped

variable {α β : Type} {y : Run σ β} {j : Nat} {k : Machine σ} {x : Run σ α} {i : Nat}
  {m : Machine σ}

/-- A call comes to what its body comes to, one call deeper. -/
theorem Reaches.within {f : Frame} (h : Reaches g y j k x i { m with frames := f :: m.frames }) :
    Reaches g y j k (within f x) i m :=
  .next (n := m) rfl (.next rfl (.first (.ending h)))

theorem Reaches.attempt (h : Reaches g y j k x i m) : Reaches g y j k (attempt x) i m :=
  .first (.ending h)

theorem Reaches.attemptStamped (h : Reaches g y j k x i m) :
    Reaches g y j k (attemptStamped x) i m := .first h.attempt

theorem Reaches.stamped (h : Reaches g y j k x i m) : Reaches g y j k (stamped x) i m :=
  .first h.attemptStamped

theorem Reaches.execFinally {x : Run σ Completion} {scope : Nat} {body : List Stmt}
    (h : Reaches g y j k x i m) : Reaches g y j k (execFinally scope (some body) x) i m :=
  .first h.attemptStamped

end Wrapped

/-- A run tells what it tells until it comes to another one, what that one tells, and the rest. -/
theorem Reaches.adds {α β : Type} {y : Run σ β} {j : Nat} {k : Machine σ} {x : Run σ α} {i : Nat}
    {m : Machine σ} (h : Reaches g y j k x i m) :
    Adds g m k ∧ Adds g ((y.act (contextAt g j)).after k) ((x.act (contextAt g i)).after m) := by
  induction h with
  | here => exact ⟨.refl _, .refl _⟩
  | @first α γ x f i m _ ih =>
    refine ⟨ih.1, ih.2.trans ?_⟩
    rw [after_bind, Action.after]
    cases x.act (contextAt g i) m with
    | ok a n => exact .of_act (f a) i n
    | error s n => exact .refl n
  | @next α γ x f a i m n hx _ ih =>
    refine ⟨(Adds.of_ok hx).trans ih.1, ?_⟩
    rw [after_bind, hx]
    exact ih.2
  | @ending α x i m _ ih =>
    rw [after_ending]
    exact ih
  | @inside α x x' i i' m hx _ ih =>
    rw [hx]
    exact ih

/-! ## Where nothing catches -/

/-- A run comes to another one, and nothing on the way there catches what that one throws. The last
part of a `try` statement does not catch it either, as long as it ends normally. -/
inductive Exposes (g : Setting σ) {β : Type} (y : Run σ β) (j : Nat) (k : Machine σ) :
    {α : Type} → Run σ α → Nat → Machine σ → Prop
  | here : Exposes g y j k y j k
  | first {α γ : Type} {x : Run σ γ} {f : γ → Run σ α} {i : Nat} {m : Machine σ} :
    Exposes g y j k x i m → Exposes g y j k (x >>= f) i m
  | next {α γ : Type} {x : Run σ γ} {f : γ → Run σ α} {a : γ} {i : Nat} {m n : Machine σ} :
    x.act (contextAt g i) m = .ok a n → Exposes g y j k (f a) i n → Exposes g y j k (x >>= f) i m
  | within {α : Type} {f : Frame} {x : Run σ α} {i : Nat} {m : Machine σ} :
    Exposes g y j k x i { m with frames := f :: m.frames } → Exposes g y j k (within f x) i m
  | stamped {α : Type} {x : Run σ α} {i : Nat} {m : Machine σ} :
    Exposes g y j k x i m → Exposes g y j k (stamped x) i m
  | execFinally {x : Run σ Completion} {scope : Nat} {body : List Stmt} {i : Nat} {m : Machine σ} :
    Exposes g y j k x i m →
    (∀ v o, (attemptStamped x).act (contextAt g i) m = .ok (.error v) o →
      ∃ p, (execBlock scope body).act (contextAt g i) o = .ok .normal p) →
    Exposes g y j k (execFinally scope (some body) x) i m
  | inside {α : Type} {x x' : Run σ α} {i i' : Nat} {m : Machine σ} :
    x.act (contextAt g i) = x'.act (contextAt g i') → Exposes g y j k x' i' m →
    Exposes g y j k x i m

section Thrown

variable {α γ : Type} {x : Run σ γ} {c : Context σ} {m n : Machine σ} {v : Value}

theorem act_bind_of_error {f : γ → Run σ α} {s : Stop} (h : x.act c m = .error s n) :
    (x >>= f).act c m = .error s n := by
  change EStateM.bind (x.act c) (fun a => (f a).act c) m = _
  rw [EStateM.bind, h]

theorem within_throws {f : Frame}
    (h : x.act c { m with frames := f :: m.frames } = .error (.thrown v) n) :
    (within f x).act c m = .error (.thrown v) { n with frames := m.frames } := by
  have hending : (ending x).act c { m with frames := f :: m.frames } =
      .ok (.error (.thrown v)) n := by simp only [ending, h]
  change EStateM.bind ((ending x).act c) _ _ = _
  rw [EStateM.bind, hending]
  rfl

theorem stamp_act (v : Value) (c : Context σ) (m : Machine σ) :
    ∃ n, (stamp v).act c m = .ok () n := by
  cases v with
  | object r =>
    have hread : (object r : Run σ Object).act c m = .ok (m.objectAt r) m := rfl
    rw [stamp, act_bind_of_ok hread]
    dsimp only
    split
    · exact ⟨_, rfl⟩
    · exact ⟨m, rfl⟩
  | _ => exact ⟨m, rfl⟩

theorem attemptStamped_of_throws (h : x.act c m = .error (.thrown v) n) :
    ∃ o, (attemptStamped x).act c m = .ok (.error v) o := by
  obtain ⟨o, ho⟩ := stamp_act v c n
  refine ⟨o, ?_⟩
  rw [attemptStamped, act_bind_of_ok (attempt_error_iff.mpr h)]
  exact act_bind_of_ok ho

theorem stamped_throws (h : x.act c m = .error (.thrown v) n) :
    ∃ o, (stamped x).act c m = .error (.thrown v) o := by
  obtain ⟨o, hattempt⟩ := attemptStamped_of_throws h
  refine ⟨o, ?_⟩
  rw [stamped, act_bind_of_ok hattempt]
  rfl

/-- A last part that ends normally throws again what the first part has thrown. -/
theorem execFinally_throws {x : Run σ Completion} {scope : Nat} {body : List Stmt}
    (h : x.act c m = .error (.thrown v) n)
    (hlast : ∀ v o, (attemptStamped x).act c m = .ok (.error v) o →
      ∃ p, (execBlock scope body).act c o = .ok .normal p) :
    ∃ p, (execFinally scope (some body) x).act c m = .error (.thrown v) p := by
  obtain ⟨o, hattempt⟩ := attemptStamped_of_throws h
  obtain ⟨p, hp⟩ := hlast v o hattempt
  refine ⟨p, ?_⟩
  rw [execFinally, act_bind_of_ok hattempt, act_bind_of_ok hp]
  rfl

end Thrown

theorem Exposes.reaches {α β : Type} {y : Run σ β} {j : Nat} {k : Machine σ} {x : Run σ α} {i : Nat}
    {m : Machine σ} (h : Exposes g y j k x i m) : Reaches g y j k x i m := by
  induction h with
  | here => exact .here
  | first _ ih => exact ih.first
  | next hx _ ih => exact .next hx ih
  | within _ ih => exact ih.within
  | stamped _ ih => exact ih.stamped
  | execFinally _ _ ih => exact ih.execFinally
  | inside hx _ ih => exact .inside hx ih

/-- What is thrown leaves every run around. -/
theorem Exposes.throws {α β : Type} {y : Run σ β} {j : Nat} {k n : Machine σ} {x : Run σ α} {i : Nat}
    {m : Machine σ} {v : Value} (h : Exposes g y j k x i m)
    (hy : y.act (contextAt g j) k = .error (.thrown v) n) :
    ∃ o, x.act (contextAt g i) m = .error (.thrown v) o := by
  induction h with
  | here => exact ⟨n, hy⟩
  | first _ ih =>
    obtain ⟨o, ho⟩ := ih
    exact ⟨o, act_bind_of_error ho⟩
  | next hx _ ih =>
    obtain ⟨o, ho⟩ := ih
    exact ⟨o, (act_bind_of_ok hx).trans ho⟩
  | within _ ih =>
    obtain ⟨o, ho⟩ := ih
    exact ⟨_, within_throws ho⟩
  | stamped _ ih =>
    obtain ⟨o, ho⟩ := ih
    exact stamped_throws ho
  | execFinally _ hlast ih =>
    obtain ⟨o, ho⟩ := ih
    exact execFinally_throws ho hlast
  | inside hx _ ih =>
    rw [hx]
    exact ih

/-! ## Statements -/

theorem exec_act_succ (g : Setting σ) (scope : Nat) (s : Stmt) (i : Nat) :
    (exec scope s).act (contextAt g (i + 1)) = (execStmt scope s).act (contextAt g i) := rfl

section Statements

variable {β : Type} {y : Run σ β} {i j : Nat} {k m : Machine σ} {scope : Nat} {s : Stmt}
  {body last : List Stmt}

theorem Reaches.execAll (h : Reaches g y j k (execStmt scope s) i m) (rest : List Stmt) :
    Reaches g y j k (execAll scope (s :: rest)) (i + 1) m :=
  .first (.inside (exec_act_succ g scope s i) h)

theorem Exposes.execAll (h : Exposes g y j k (execStmt scope s) i m) (rest : List Stmt) :
    Exposes g y j k (execAll scope (s :: rest)) (i + 1) m :=
  .first (.inside (exec_act_succ g scope s i) h)

/-- What a `try` statement is about to catch does not keep it from coming to what its block comes
to. -/
theorem Reaches.execAttempt (h : Reaches g y j k (execBlock scope body) i m)
    (target : Option Target) (handler final : Option (List Stmt)) :
    Reaches g y j k (execAttempt scope body target handler final) i m := by
  cases handler with
  | none =>
    cases final with
    | none => exact h
    | some last => exact h.execFinally
  | some handler =>
    cases final with
    | none => exact .first h.attemptStamped
    | some last => exact .execFinally (.first h.attemptStamped)

/-- A `try` statement with nothing to catch throws what its block throws. -/
theorem Exposes.execAttempt (h : Exposes g y j k (execBlock scope body) i m)
    (hlast : ∀ v o, (attemptStamped (execBlock scope body)).act (contextAt g i) m =
        .ok (.error v) o →
      ∃ p, (execBlock scope last).act (contextAt g i) o = .ok .normal p) :
    Exposes g y j k (execAttempt scope body none none (some last)) i m :=
  .execFinally h hlast

end Statements

end ContentSource.Script
