import ContentSource.Engine
import ContentSource.Proofs.Actions
import ContentSource.Proofs.Script.HookErrors

/-! # What the effects of an engine do

The answers of a fetch and of a hook call, the events that they add, and the session that they leave
behind. Scripts add only what a script can bring about; a call of a released script adds nothing but
the report of its failure.
-/
namespace ContentSource

open Script (Told Setting Run)
open Script.Run (HookError)

variable {σ α : Type}

namespace Host

/-- The transport answers with the request that it was given. -/
def Echoes (h : Host σ) : Prop :=
  ∀ url r k a k', h.request url r k = (.ok a, k') → a.request = r

def echoing : Host Unit := ⟨fun url r k => (.ok ⟨[], r, url⟩, k), .empty⟩

theorem echoing_echoes : echoing.Echoes := by
  intro url r k a k' h
  cases h
  rfl

end Host

namespace Session

theorem trace_initial (host : σ) : (initial host).trace = [] := rfl

@[simp]
theorem trace_tell (s : Session σ) (v : Event) : (s.tell v).trace = s.trace ++ [v] := by
  simp [trace, tell]

@[simp]
theorem machine_tell (s : Session σ) (v : Event) : (s.tell v).machine = s.machine := rfl

theorem trace_resume (s : Session σ) (m : Script.Machine σ) :
    (s.resume m).trace = s.trace ++ m.events.reverse := by
  simp [trace, resume]

def fetched (s : Session σ) (host : σ) (url : String) (r : Request) : Session σ :=
  { s with host := host, events := .fetch url r :: s.events }

@[simp]
theorem trace_fetched (s : Session σ) (host : σ) (url : String) (r : Request) :
    (s.fetched host url r).trace = s.trace ++ [.fetch url r] := by
  simp [trace, fetched]

@[simp]
theorem machine_fetched (s : Session σ) (host : σ) (url : String) (r : Request) :
    (s.fetched host url r).machine = s.machine := rfl

end Session

namespace Act

variable {plugin : String} {x : Act σ α} {s t : Session σ} {out : Except PluginError α}

theorem logged_eq_some (h : logged plugin x s = some (out, t)) :
    (∃ a, out = .ok a ∧ x s = some (.ok a, t)) ∨
      ∃ e u, out = .error e ∧ x s = some (.error e, u) ∧ t = u.tell (.error e plugin) := by
  rcases hx : x s with _ | ⟨e | a, u⟩
  · simp [logged, hx] at h
  · simp only [logged, hx, Option.some.injEq, Prod.mk.injEq] at h
    obtain ⟨rfl, rfl⟩ := h
    exact .inr ⟨e, u, rfl, rfl, rfl⟩
  · simp only [logged, hx, Option.some.injEq, Prod.mk.injEq] at h
    obtain ⟨rfl, rfl⟩ := h
    exact .inl ⟨a, rfl, rfl⟩

theorem logged_of_error {e : PluginError} (h : x s = some (.error e, t)) :
    logged plugin x s = some (.error e, t.tell (.error e plugin)) := by
  simp only [logged, h]

theorem logged_of_ok {a : α} (h : x s = some (.ok a, t)) : logged plugin x s = some (.ok a, t) := by
  simp only [logged, h]

/-- What runs on the machine adds only what a script can bring about, and the machine is kept. -/
theorem onMachine_eq_some {g : Setting σ} {y : Run σ (Except PluginError α)}
    (h : onMachine g y s = some (out, t)) :
    (s.machine = none ∧ out = .error .released ∧ t = s) ∨
      s.machine.isSome ∧ t.machine.isSome ∧ (∃ c m n, y.act c m = .ok out n) ∧
        ∃ told, t.trace = s.trace ++ told ∧ ∀ v ∈ told, Told g.plugin g.request v := by
  cases hm : s.machine with
  | none =>
    simp only [onMachine, hm, Option.some.injEq, Prod.mk.injEq] at h
    exact .inl ⟨rfl, h.1.symm, h.2.symm⟩
  | some m =>
    simp only [onMachine, hm] at h
    cases hy : y.act g.context { m with host := s.host, events := [] } with
    | error stop n => simp [hy] at h
    | ok r n =>
      simp only [hy, Option.some.injEq, Prod.mk.injEq] at h
      obtain ⟨rfl, rfl⟩ := h
      obtain ⟨told, htold, hall⟩ := y.act_isHonest g { m with host := s.host, events := [] }
      simp only [Script.Action.after, hy, List.append_nil] at htold
      refine .inr ⟨rfl, rfl, ⟨_, _, n, hy⟩, told.reverse, ?_, ?_⟩
      · rw [Session.trace_resume, htold]
      · simpa using hall

theorem onMachine_eq_ok_iff {g : Setting σ} {y : Run σ (Except PluginError α)} {a : α} :
    onMachine g y s = some (.ok a, t) ↔
      ∃ m n, s.machine = some m ∧
        y.act g.context { m with host := s.host, events := [] } = .ok (.ok a) n ∧
        t = s.resume n := by
  constructor
  · intro h
    unfold onMachine at h
    split at h
    · simp at h
    · rename_i m hm
      split at h
      · rename_i r n hact
        simp only [Option.some.injEq, Prod.mk.injEq] at h
        obtain ⟨rfl, rfl⟩ := h
        exact ⟨m, n, hm, hact, rfl⟩
      · cases h
  · rintro ⟨m, n, hm, hact, rfl⟩
    simp only [onMachine, hm, hact]

/-- How something ends that runs on the machine and is reported: the script has been released, or
the run succeeds, or it fails with an error of its own. -/
inductive Scripted (plugin : String) (request : Request) (P : PluginError → Prop)
    (s : Session σ) : Except PluginError α → Session σ → Prop
  | released : s.machine = none →
    Scripted plugin request P s (.error .released) (s.tell (.error .released plugin))
  | done {a : α} {t : Session σ} {told : List Event} : s.machine.isSome → t.machine.isSome →
    t.trace = s.trace ++ told → (∀ v ∈ told, Told plugin request v) →
    Scripted plugin request P s (.ok a) t
  | failed {e : PluginError} {t : Session σ} {told : List Event} : s.machine.isSome →
    t.machine.isSome → t.trace = s.trace ++ told → (∀ v ∈ told, Told plugin request v) → P e →
    Scripted plugin request P s (.error e) (t.tell (.error e plugin))

theorem logged_onMachine_eq_some {P : PluginError → Prop} {g : Setting σ}
    {y : Run σ (Except PluginError α)} (hy : y.Yields fun r => ∀ e, r = .error e → P e)
    (h : logged g.plugin (onMachine g y) s = some (out, t)) :
    Scripted g.plugin g.request P s out t := by
  rcases logged_eq_some h with ⟨a, rfl, hrun⟩ | ⟨e, u, rfl, hrun, rfl⟩
  · rcases onMachine_eq_some hrun with ⟨-, he, -⟩ | ⟨hs, ht, -, told, htold, hall⟩
    · cases he
    · exact .done hs ht htold hall
  · rcases onMachine_eq_some hrun with
      ⟨hs, he, rfl⟩ | ⟨hs, hu, ⟨c, m, n, hact⟩, told, htold, hall⟩
    · cases he
      exact .released hs
    · exact .failed hs hu htold hall (hy hact e rfl)

end Act

def StartError.Causes (e : PluginError) : Prop := ∃ cause, e = .scriptInit cause

/-- The script itself fails with an error of its start, or because it has been released. -/
theorem Bridge.start_eq_some {b : Bridge σ} {s t : Session σ} {out : Except PluginError Unit}
    (h : b.start s = some (out, t)) :
    Act.Scripted b.setting.plugin b.setting.request StartError.Causes s out t := by
  refine Act.logged_onMachine_eq_some ?_ h
  refine (Run.yields_true _).bind fun r _ => .pure fun e he => ?_
  cases r with
  | ok => cases he
  | error cause =>
    cases he
    exact ⟨cause, rfl⟩

namespace Engine

variable {e : Engine σ} {url hook : String} {r : Request} {s t : Session σ}
  {response : Response} {out : Except PluginError Response}

/-! ## Fetches -/

theorem fetch_of_literal {payload : String} (h : linkPayload? Link.null url = some payload) :
    e.fetch url r s = some (.ok ⟨Text.Utf8.encode payload, r, url⟩, s) := by
  refine Act.logged_of_ok ?_
  simp only [Act.fetch, Host.fetch, Host.literal?, h, Option.map_some]
  rfl

theorem fetch_of_answer {a : Response} {k : σ} (h : linkPayload? Link.null url = none)
    (hr : e.bridge.setting.host.request url r s.host = (.ok a, k)) :
    e.fetch url r s = some (.ok a, s.fetched k url r) := by
  refine Act.logged_of_ok ?_
  simp only [Act.fetch, Host.fetch, Host.literal?, Host.transport, h, hr, Option.map_none]
  rfl

theorem fetch_of_failure {f : Failure} {k : σ} (h : linkPayload? Link.null url = none)
    (hr : e.bridge.setting.host.request url r s.host = (.error f, k)) :
    e.fetch url r s = some (.error (.fetch url f),
      (s.fetched k url r).tell (.error (.fetch url f) e.info.title)) := by
  refine Act.logged_of_error ?_
  simp only [Act.fetch, Host.fetch, Host.literal?, Host.transport, h, hr, Option.map_none]
  rfl

/-- How a fetch ends: a `NULL` link is its own answer, and anything else takes one call of the
transport, whose failure is reported. -/
inductive Fetched (e : Engine σ) (url : String) (r : Request) (s : Session σ) :
    Except PluginError Response → Session σ → Prop
  | literal {payload : String} : linkPayload? Link.null url = some payload →
    Fetched e url r s (.ok ⟨Text.Utf8.encode payload, r, url⟩) s
  | answered {a : Response} {k : σ} : linkPayload? Link.null url = none →
    e.bridge.setting.host.request url r s.host = (.ok a, k) →
    Fetched e url r s (.ok a) (s.fetched k url r)
  | failed {f : Failure} {k : σ} : linkPayload? Link.null url = none →
    e.bridge.setting.host.request url r s.host = (.error f, k) →
    Fetched e url r s (.error (.fetch url f))
      ((s.fetched k url r).tell (.error (.fetch url f) e.info.title))

theorem fetch_eq_some_iff :
    e.fetch url r s = some (out, t) ↔ e.Fetched url r s out t := by
  constructor
  · intro h
    cases hnull : linkPayload? Link.null url with
    | some payload =>
      rw [fetch_of_literal hnull] at h
      cases h
      exact .literal hnull
    | none =>
      rcases hr : e.bridge.setting.host.request url r s.host with ⟨f | a, k⟩
      · rw [fetch_of_failure hnull hr] at h
        cases h
        exact .failed hnull hr
      · rw [fetch_of_answer hnull hr] at h
        cases h
        exact .answered hnull hr
  · intro h
    cases h with
    | literal hnull => exact fetch_of_literal hnull
    | answered hnull hr => exact fetch_of_answer hnull hr
    | failed hnull hr => exact fetch_of_failure hnull hr

/-! ## Calls of hooks -/

/-- A call of a hook fails because the script has been released, or for a reason of its own. -/
theorem invoke_eq_some (h : e.bridge.invoke hook response s = some (out, t)) :
    Act.Scripted e.info.title e.initial HookError s out t := by
  have hinvoke := Act.logged_onMachine_eq_some
    (Run.invokeHook_fails e.bridge.script hook response) h
  rwa [e.plugin_eq, e.request_eq] at hinvoke

end Engine

end ContentSource
