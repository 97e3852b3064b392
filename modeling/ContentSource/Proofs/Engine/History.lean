import ContentSource.Proofs.Engine.Content
import ContentSource.Proofs.Engine.Loading

/-! # Histories of an engine

Between its loading and its end an engine is asked for nodes, for content and for what links name,
and its script may be released, in any order. A history is such a sequence of operations with all
that they have changed; each operation may have failed. The script stays until it is released.
-/
namespace ContentSource

variable {σ : Type}

inductive Operation where
  | find (url : String) (allowRedirect : Bool)
  | content (n : Node) (input : Option String) (page : UInt32)
  | bytes (link : String)
  | response (link : String)
  | release

inductive Answer where
  | node (n : Option Node)
  | response (r : Response)
  | bytes (bs : List UInt8)
  | done

namespace Operation

def act (e : Engine σ) : Operation → Act σ Answer
  | find url allowRedirect => return .node (e.findNode? url allowRedirect)
  | content n input page => return .response (← e.getData n input page)
  | bytes link => return .bytes (← e.processData link)
  | response link => return .response (← e.processResponse link)
  | release => do
    Bridge.release
    return .done

def pipeline? : Operation → Option (Node × Option String × UInt32)
  | content n input page => some (n, input, page)
  | bytes link | response link =>
    (Link.parse? link).map fun l => (Node.redirect l.type, some l.payload, 1)
  | find .. | release => none

end Operation

structure InUse (σ : Type) where
  engine : Engine σ
  session : Session σ

namespace InUse

def step (u : InUse σ) (op : Operation) : Option (Except PluginError Answer × InUse σ) := do
  let (out, s) ← op.act u.engine u.session
  return (out, { u with session := s })

inductive History (u : InUse σ) : List Operation → InUse σ → Prop
  | nil : History u [] u
  | snoc {ops : List Operation} {op : Operation} {v w : InUse σ}
      {out : Except PluginError Answer} :
    History u ops v → v.step op = some (out, w) → History u (ops ++ [op]) w

variable {u v w : InUse σ} {op : Operation} {ops : List Operation}
  {out : Except PluginError Answer}

theorem step_eq_some (h : v.step op = some (out, w)) :
    w.engine = v.engine ∧ op.act v.engine v.session = some (out, w.session) := by
  unfold step at h
  rcases hact : op.act v.engine v.session with _ | ⟨out', s⟩
  · simp [hact] at h
  · simp only [hact, Option.bind_eq_bind, Option.bind_some, Option.pure_def, Option.some.injEq,
      Prod.mk.injEq] at h
    obtain ⟨rfl, rfl⟩ := h
    exact ⟨rfl, rfl⟩

theorem History.engine_eq (h : History u ops v) : v.engine = u.engine := by
  induction h with
  | nil => rfl
  | snoc _ hstep ih => rw [(step_eq_some hstep).1, ih]

end InUse

/-! ## What an operation does to the session -/

namespace Engine

variable {e : Engine σ} {s : Session σ}

theorem processResponse_of_link {link : String} {l : Link} (h : Link.parse? link = some l) :
    e.processResponse link = e.getData (Node.redirect l.type) (some l.payload) 1 := by
  simp only [processResponse, h]

theorem processResponse_of_no_link {link : String} (h : Link.parse? link = none) :
    e.processResponse link s = some (.error (.parse (.notALink link)),
      s.tell (.error (.parse (.notALink link)) e.info.title)) := by
  simp only [processResponse, h]
  exact Act.logged_of_error rfl

end Engine

namespace Operation

variable {e : Engine σ} {op : Operation} {n : Node} {input : Option String} {page : UInt32}
  {s t : Session σ} {out : Except PluginError Answer}

theorem bind_pure_eq_some {α β : Type} {x : Act σ α} {f : α → β} {out : Except PluginError β}
    (h : (x >>= fun a => pure (f a)) s = some (out, t)) :
    ∃ got, x s = some (got, t) ∧ out = got.map f := by
  rcases Act.bind_eq_some h with ⟨err, rfl, hx⟩ | ⟨a, u, hx, hdone⟩
  · exact ⟨.error err, hx, rfl⟩
  · cases hdone
    exact ⟨.ok a, hx, rfl⟩

/-- How an operation ends: an operation with a pipeline ends as the content of its node does. -/
inductive Ended (e : Engine σ) (s : Session σ) :
    Operation → Except PluginError Answer → Session σ → Prop
  | found {url : String} {allowRedirect : Bool} :
    Ended e s (.find url allowRedirect) (.ok (.node (e.findNode? url allowRedirect))) s
  | obtained {op : Operation} {n : Node} {input : Option String} {page : UInt32}
      {got : Except PluginError Response} {t : Session σ} (f : Response → Answer) :
    op.pipeline? = some (n, input, page) → e.getData n input page s = some (got, t) →
    Ended e s op (got.map f) t
  | noLink {op : Operation} {link : String} : op = .bytes link ∨ op = .response link →
    Link.parse? link = none →
    Ended e s op (.error (.parse (.notALink link)))
      (s.tell (.error (.parse (.notALink link)) e.info.title))
  | released : Ended e s .release (.ok .done) { s with machine := none }

theorem act_eq_some (h : op.act e s = some (out, t)) : Ended e s op out t := by
  cases op with
  | find url allowRedirect =>
    cases h
    exact .found
  | content n input page =>
    obtain ⟨got, hgot, rfl⟩ := bind_pure_eq_some h
    exact .obtained .response rfl hgot
  | bytes link =>
    obtain ⟨data, hdata, rfl⟩ := bind_pure_eq_some h
    obtain ⟨got, hgot, rfl⟩ := bind_pure_eq_some hdata
    cases hl : Link.parse? link with
    | some l =>
      rw [Engine.processResponse_of_link hl] at hgot
      have hout : (got.map Response.body).map Answer.bytes = got.map fun r => .bytes r.body := by
        cases got <;> rfl
      rw [hout]
      exact .obtained _ (by simp only [pipeline?, hl, Option.map_some]) hgot
    | none =>
      rw [Engine.processResponse_of_no_link hl] at hgot
      cases hgot
      exact .noLink (.inl rfl) hl
  | response link =>
    obtain ⟨got, hgot, rfl⟩ := bind_pure_eq_some h
    cases hl : Link.parse? link with
    | some l =>
      rw [Engine.processResponse_of_link hl] at hgot
      exact .obtained .response (by simp only [pipeline?, hl, Option.map_some]) hgot
    | none =>
      rw [Engine.processResponse_of_no_link hl] at hgot
      cases hgot
      exact .noLink (.inr rfl) hl
  | release =>
    cases h
    exact .released

end Operation

/-! ## The script stays until it is released -/

namespace Engine

variable {e : Engine σ} {x : Effect} {ds : List Deed} {s t : Session σ}
  {out : Except PluginError Response}

theorem perform_machine (h : e.perform x s = some (out, t)) :
    t.machine.isSome = s.machine.isSome := by
  cases x with
  | fetch url r => cases fetch_eq_some_iff.mp h <;> rfl
  | invoke hook response =>
    cases invoke_eq_some h with
    | released => rfl
    | done hs ht => rw [hs, ht]
    | failed hs ht => rw [Session.machine_tell, hs, ht]

theorem chain_machine (h : Chain e.perform s ds t) : t.machine.isSome = s.machine.isSome := by
  induction h with
  | nil => rfl
  | snoc _ hd _ ih => rw [perform_machine hd, ih]

theorem Loaded.machine {host : Host σ} {limits : Script.Limits} {source : String}
    (h : Loaded host limits source s (.ok e) t) : t.machine.isSome := by
  generalize hout : (.ok e : Except PluginError (Engine σ)) = out at h
  cases h with
  | unreadable | badCharset => cases hout
  | started _ _ hran =>
    cases hran with
    | released | failed => cases hout
    | done _ ht => exact ht

end Engine

theorem Operation.Ended.machine {e : Engine σ} {op : Operation} {s t : Session σ}
    {out : Except PluginError Answer} (h : Ended e s op out t) (hop : op ≠ .release) :
    t.machine.isSome = s.machine.isSome := by
  cases h with
  | found => rfl
  | obtained f _ hgot =>
    obtain ⟨ds, hchain, -⟩ := Engine.getData_eq_some_iff.mp hgot
    exact Engine.chain_machine hchain
  | noLink => rfl
  | released => exact absurd rfl hop

namespace InUse

variable {u v w : InUse σ} {op : Operation} {ops : List Operation}
  {out : Except PluginError Answer}

/-- A script that is gone has been released. -/
theorem History.release_mem (h : History u ops v) (hu : u.session.machine.isSome)
    (hv : v.session.machine = none) : .release ∈ ops := by
  induction h with
  | nil => simp [hv] at hu
  | @snoc ops op v w _ _ hstep ih =>
    by_cases hop : op = .release
    · simp [hop]
    · have hgone := (Operation.act_eq_some (step_eq_some hstep).2).machine hop
      rw [hv] at hgone
      have hbefore : v.session.machine = none := by simpa using hgone.symm
      exact List.mem_append_left _ (ih hbefore)

end InUse

end ContentSource
