import ContentSource.Proofs.Script.RequestObjects
import ContentSource.Proofs.Script.Requiring

/-! # Scripts that do nothing but require another one

Where the global `require` is what it was made as, a script that consists of one call of it comes to
the requirement two calls deeper, and nothing else has changed until then. The same holds of such a
call in a `try` statement.
-/
namespace ContentSource.Script

open Run
open Text (Units)

variable {σ β : Type} {g : Setting σ} {c : Context σ} {i : Nat} {m n : Machine σ} {r : Ref}

/-! ## Calls under way -/

namespace Machine

def entered (m : Machine σ) (f : Frame) : Machine σ := { m with frames := f :: m.frames }

def reached (m : Machine σ) (p : Place) : Machine σ :=
  match m.frames with
  | f :: rest => { m with frames := { f with place := p } :: rest }
  | [] => m

/-- A machine is another one but for the calls under way, of which it has so many more. -/
structure Deepens (m n : Machine σ) (d : Nat) : Prop where
  objects : n.objects = m.objects
  scopes : n.scopes = m.scopes
  host : n.host = m.host
  events : n.events = m.events
  frames : n.frames.length = m.frames.length + d

theorem deepens_entered (m : Machine σ) (f : Frame) : m.Deepens (m.entered f) 1 :=
  ⟨rfl, rfl, rfl, rfl, rfl⟩

theorem deepens_reached (m : Machine σ) (p : Place) : m.Deepens (m.reached p) 0 := by
  unfold reached
  split
  · rename_i f rest hframes
    exact ⟨rfl, rfl, rfl, rfl, by simp [hframes]⟩
  · exact ⟨rfl, rfl, rfl, rfl, rfl⟩

theorem Deepens.trans {k : Machine σ} {d e : Nat} (h : m.Deepens n d) (h' : n.Deepens k e) :
    m.Deepens k (d + e) :=
  ⟨h'.objects.trans h.objects, h'.scopes.trans h.scopes, h'.host.trans h.host,
    h'.events.trans h.events, by rw [h'.frames, h.frames, Nat.add_assoc]⟩

/-- The global `require` is the function that was made for it, and no variable hides it. -/
structure Offers (m : Machine σ) (r : Ref) : Prop where
  unbound : (m.scopes.getD 0 default).vars.find? (fun p => p.1 == "require") = none
  outermost : (m.scopes.getD 0 default).parent = none
  global : ∃ w e d, m.own? globalRef (Key.ofString "require") = some ⟨.data (.object r) w, e, d⟩
  builtin : ∃ constructs, (m.objectAt r).cls = .function (.builtin .require) constructs

theorem Offers.deepens {d : Nat} (h : m.Offers r) (hn : m.Deepens n d) : n.Offers r := by
  obtain ⟨hunbound, houtermost, hglobal, hbuiltin⟩ := h
  unfold own? objectAt at hglobal
  unfold objectAt at hbuiltin
  rw [← hn.scopes] at hunbound houtermost
  rw [← hn.objects] at hglobal hbuiltin
  exact ⟨hunbound, houtermost, hglobal, hbuiltin⟩

def offered? (m : Machine σ) : Option Ref :=
  match m.own? globalRef (Key.ofString "require") with
  | some ⟨.data (.object r) _, _, _⟩ =>
    match (m.objectAt r).cls with
    | .function (.builtin .require) _ =>
      let s := m.scopes.getD 0 default
      if (s.vars.find? fun p => p.1 == "require").isNone && s.parent.isNone then some r else none
    | _ => none
  | _ => none

theorem offers_of_offered? (h : m.offered? = some r) : m.Offers r := by
  unfold offered? at h
  split at h
  · rename_i hglobal
    split at h
    · rename_i hbuiltin
      obtain ⟨hscope, heq⟩ := Option.ite_none_right_eq_some.mp h
      cases heq
      simp only [Bool.and_eq_true, Option.isNone_iff_eq_none] at hscope
      exact ⟨hscope.1, hscope.2, ⟨_, _, _, hglobal⟩, ⟨_, hbuiltin⟩⟩
    · cases h
  · cases h

/-- The machine in which a call of `require` asks for its address: where the name and the call stand
has been noted, and the function is under way. -/
def asking (m : Machine σ) (r : Ref) (p q : Place) : Machine σ :=
  let n := (m.reached p).reached q
  n.entered ⟨ownName (n.objectAt r), default, true⟩

theorem deepens_asking (m : Machine σ) (r : Ref) (p q : Place) : m.Deepens (m.asking r p q) 1 :=
  ((m.deepens_reached p).trans (deepens_reached _ q)).trans (deepens_entered _ _)

end Machine

/-! ## The call -/

theorem reach_act (c : Context σ) (m : Machine σ) (p : Place) :
    (reach p).act c m = .ok () (m.reached p) := by
  change (match m.frames with
    | f :: rest => setFrames ({ f with place := p } :: rest)
    | [] => pure () : Run σ Unit).act c m = _
  unfold Machine.reached
  cases m.frames <;> rfl

theorem hostText_string_act {u : Units} {s : String} (hu : u.toString = .ok s) :
    (hostText (.string u)).act c m = .ok s m := by
  have htext : (toText (.string u)).act c m = .ok u m := rfl
  rw [hostText, act_bind_of_ok htext, hu]
  rfl

def requireCall (u : Units) (p q : Place) : Expr :=
  .call (.name "require" p) [.one (.string u)] false q

namespace Machine.Offers

theorem readName_act (h : m.Offers r) (c : Context σ) (p : Place) :
    (readName 0 "require" p).act c m = .ok (.object r) (m.reached p) := by
  have hfree : (findBinding 0 "require").act c m = .ok none m := by
    have hscope : (scope 0).act c m = .ok (m.scopes.getD 0 default) m := rfl
    change (holderOf "require" (m.scopes.size + 1) 0).act c m = _
    rw [holderOf, act_bind_of_ok hscope, h.unbound]
    dsimp only
    rw [h.outermost]
    rfl
  have hhas : (hasProperty globalRef (Key.ofString "require")).act c m = .ok true m := by
    obtain ⟨w, e, d, hglobal⟩ := h.global
    rw [hasProperty, act_bind_of_ok ((looks_find _ _).sees (find?_of_own? hglobal))]
    rfl
  obtain ⟨w, e, d, hglobal⟩ := (h.deepens (m.deepens_reached p)).global
  rw [readName, act_bind_of_ok hfree]
  dsimp only
  rw [act_bind_of_ok hhas, if_pos rfl, act_bind_of_ok (reach_act c m p)]
  exact getObject_of_data (find?_of_own? hglobal)

variable {u : Units} {url : String} {p q : Place}

/-- The function itself, in the machine that it is called in. -/
theorem exposes_value (h : m.Offers r) (hu : u.toString = .ok url) (hroom : HasRoom g m) :
    Exposes g (ask url) i (m.entered ⟨ownName (m.objectAt r), default, true⟩)
      (callValue (.object r) .undefined [.string u]) i m := by
  obtain ⟨constructs, hcls⟩ := h.builtin
  refine .next (looks_object r _ _) ?_
  rw [hcls]
  refine .next (checkDepth_act hroom) (.within (.stamped ?_))
  change Exposes g (ask url) i _ (require [.string u]) i _
  rw [require_cons]
  exact .next (hostText_string_act hu) .here

theorem exposes_call (h : m.Offers r) (hu : u.toString = .ok url) (hroom : HasRoom g m) :
    Exposes g (ask url) i (m.asking r p q) (evalExpr 0 (requireCall u p q)) (i + 1) m := by
  have hcallee : (chainValue 0 (.name "require" p)).act (contextAt g (i + 1)) m =
      .ok (some (.object r, .undefined)) (m.reached p) := by
    have heval : (eval 0 (.name "require" p)).act (contextAt g (i + 1)) m =
        .ok (.object r) (m.reached p) := h.readName_act (contextAt g i) p
    exact (act_bind_of_ok heval).trans rfl
  have hargs : (argumentValues 0 [.one (.string u)]).act (contextAt g (i + 1)) (m.reached p) =
      .ok [.string u] (m.reached p) := rfl
  have hdeepens := (m.deepens_reached p).trans (deepens_reached _ q)
  have hvalue := (h.deepens hdeepens).exposes_value (g := g) (i := i) hu (by
    rw [HasRoom, hdeepens.frames]
    exact hroom)
  refine .first (.next hcallee (.next hargs (.next (reach_act _ _ q) (.first ?_))))
  exact .inside (show (call (.object r) .undefined [.string u]).act (contextAt g (i + 1)) =
    (callValue (.object r) .undefined [.string u]).act (contextAt g i) from rfl) hvalue

theorem exposes_statement (h : m.Offers r) (hu : u.toString = .ok url) (hroom : HasRoom g m) :
    Exposes g (ask url) i (m.asking r p q) (execAll 0 [.expr (requireCall u p q)]) (i + 3) m := by
  have hstatement : Exposes g (ask url) i (m.asking r p q)
      (execStmt 0 (.expr (requireCall u p q))) (i + 2) m :=
    .first (.first (.inside (show (eval 0 (requireCall u p q)).act (contextAt g (i + 2)) =
      (evalExpr 0 (requireCall u p q)).act (contextAt g (i + 1)) from rfl) (h.exposes_call hu hroom)))
  exact hstatement.execAll []

theorem exposes_block (h : m.Offers r) (hu : u.toString = .ok url) (hroom : HasRoom g m) :
    Exposes g (ask url) i (m.asking r p q) (execBlock 0 [.expr (requireCall u p q)]) (i + 3) m :=
  .next (show (blockScope 0 [.expr (requireCall u p q)]).act (contextAt g (i + 3)) m = .ok 0 m
    from rfl) (h.exposes_statement hu hroom)

end Machine.Offers

/-! ## Whole scripts -/

def Machine.evaluating (m : Machine σ) : Machine σ := m.entered ⟨"<eval>", ⟨1, 1⟩, false⟩

theorem runScript_eq {source : String} {p : Program} (hread : Program.read source = .ok p) :
    runScript (σ := σ) source = (checkDepth >>= fun _ =>
      within ⟨"<eval>", ⟨1, 1⟩, false⟩ (stamped
        (declareProgram p >>= fun _ => discard (execAll 0 p.body)))) := by
  unfold runScript
  simp only [hread]

theorem Reaches.load {y : Run σ β} {j : Nat} {k : Machine σ} {source : String}
    (h : Reaches g y j k (runScript source) i m) : Reaches g y j k (load source) (i + 1) m :=
  .inside (show (Run.load source).act (contextAt g (i + 1)) =
    (runScript source).act (contextAt g i) from rfl) h

section Undeclaring

variable {y : Run σ β} {j : Nat} {k : Machine σ} {source : String} {body : List Stmt}

theorem declareProgram_act (hnames : blockNames body = []) (hfunctions : blockFunctions body = [])
    (c : Context σ) (m : Machine σ) : (declareProgram ⟨[], body⟩).act c m = .ok () m := by
  simp only [declareProgram, hnames, hfunctions]
  rfl

/-- A script that declares nothing comes to what its statements come to. -/
theorem reaches_runScript (hread : Program.read source = .ok ⟨[], body⟩)
    (hnames : blockNames body = []) (hfunctions : blockFunctions body = []) (hroom : HasRoom g m)
    (h : Reaches g y j k (execAll 0 body) i m.evaluating) :
    Reaches g y j k (runScript source) i m := by
  rw [runScript_eq hread]
  exact .next (checkDepth_act hroom)
    (.within (.stamped (.next (declareProgram_act hnames hfunctions _ _) (.first h))))

/-- It catches nothing that its statements do not catch. -/
theorem exposes_runScript (hread : Program.read source = .ok ⟨[], body⟩)
    (hnames : blockNames body = []) (hfunctions : blockFunctions body = []) (hroom : HasRoom g m)
    (h : Exposes g y j k (execAll 0 body) i m.evaluating) :
    Exposes g y j k (runScript source) i m := by
  rw [runScript_eq hread]
  exact .next (checkDepth_act hroom)
    (.within (.stamped (.next (declareProgram_act hnames hfunctions _ _) (.first h))))

end Undeclaring

def asked? : List Stmt → Option (String × Place × Place)
  | [.expr (.call (.name "require" p) [.one (.string u)] false q)] =>
    u.toString?.map fun url => (url, p, q)
  | _ => none

theorem exists_of_asked? {body : List Stmt} {url : String} {p q : Place}
    (h : asked? body = some (url, p, q)) :
    ∃ u, body = [.expr (requireCall u p q)] ∧ u.toString = .ok url := by
  unfold asked? at h
  split at h
  · rename_i p' u q'
    obtain ⟨url', hurl, heq⟩ := Option.map_eq_some_iff.mp h
    cases heq
    refine ⟨u, rfl, ?_⟩
    cases htext : u.toString <;> simp_all [Units.toString?, Except.toOption]
  · cases h

def requirement? (source : String) : Option (String × Place × Place) :=
  match Program.read source with
  | .ok ⟨[], body⟩ => asked? body
  | _ => none

def triedRequirement? (source : String) : Option (String × Place × Place) :=
  match Program.read source with
  | .ok ⟨[], [.attempt body _ (some _) none]⟩ => asked? body
  | _ => none

namespace Machine.Offers

variable {source url : String} {p q : Place}

theorem exposes_requirement (h : m.Offers r) (hsource : requirement? source = some (url, p, q))
    (hroom : m.frames.length + 1 < callLimit g.limits) :
    Exposes g (ask url) i (m.evaluating.asking r p q) (runScript source) (i + 3) m := by
  unfold requirement? at hsource
  split at hsource
  · rename_i body hread
    obtain ⟨u, rfl, hu⟩ := exists_of_asked? hsource
    exact exposes_runScript hread rfl rfl (Nat.lt_of_succ_lt hroom)
      ((h.deepens (deepens_entered _ _)).exposes_statement hu hroom)
  · cases hsource

theorem reaches_tried_requirement (h : m.Offers r)
    (hsource : triedRequirement? source = some (url, p, q))
    (hroom : m.frames.length + 1 < callLimit g.limits) :
    Reaches g (ask url) i (m.evaluating.asking r p q) (runScript source) (i + 4) m := by
  unfold triedRequirement? at hsource
  split at hsource
  · rename_i body target handler hread
    obtain ⟨u, rfl, hu⟩ := exists_of_asked? hsource
    have hblock : Exposes g (ask url) i (m.evaluating.asking r p q)
        (execBlock 0 [.expr (requireCall u p q)]) (i + 3) m.evaluating :=
      (h.deepens (deepens_entered _ _)).exposes_block hu hroom
    exact reaches_runScript hread rfl rfl (Nat.lt_of_succ_lt hroom)
      (Reaches.execAll (hblock.reaches.execAttempt target (some handler) none) [])
  · cases hsource

end Machine.Offers

end ContentSource.Script
