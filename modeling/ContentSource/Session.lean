import ContentSource.Script.Hook

/-! # Sessions

A session is what changes while a plugin is in use: the machine of its script until it is released,
the state of the host, and the events so far. An action on a session either yields something or
stops with an error, and the session goes on in either case; or it does not come to an end.
-/
namespace ContentSource

open Script (Machine Run Setting)

structure Session (σ : Type) where
  /-- Nothing once the script has been released. -/
  machine : Option (Machine σ)
  host : σ
  /-- The latest event first. -/
  events : List Event

/-- What is done to a session: nothing for an action that does not come to an end, else what it
yields or the error it stops with, and the session after it. -/
abbrev Act (σ α : Type) := ExceptT PluginError (StateT (Session σ) Option) α

namespace Session

variable {σ : Type}

def initial (host : σ) : Session σ := ⟨some (Machine.empty host), host, []⟩

def isReleased (s : Session σ) : Bool := s.machine.isNone

/-- The events from the first to the latest. -/
def trace (s : Session σ) : List Event := s.events.reverse

def tell (s : Session σ) (e : Event) : Session σ := { s with events := e :: s.events }

/-- The session after its machine has run. -/
def resume (s : Session σ) (m : Machine σ) : Session σ := ⟨some m, m.host, m.events ++ s.events⟩

end Session

namespace Act

variable {σ α β : Type}

def fail (e : PluginError) : Act σ α := throw e

/-- Repeats a step until it yields a result, for as long as that takes. -/
def repeatUntil (step : α → Act σ (α ⊕ β)) (a : α) (s : Session σ) :
    Option (Except PluginError β × Session σ) :=
  step a s >>= fun
    | (.ok (.inl b), t) => by
      -- The next round. Called from a tactic, it leaves no source position in the definition.
      apply repeatUntil
      · exact step
      · exact b
      · exact t
    | (.ok (.inr r), t) => some (.ok r, t)
    | (.error e, t) => some (.error e, t)
partial_fixpoint

/-- Reports the error that an action stops with, under the name of a plugin. -/
def logged (plugin : String) (x : Act σ α) : Act σ α := fun s =>
  match x s with
  | some (.error e, s) => some (.error e, s.tell (.error e plugin))
  | r => r

def onMachine (g : Setting σ) (x : Run σ (Except PluginError α)) : Act σ α := fun s =>
  match s.machine with
  | none => some (.error .released, s)
  | some m =>
    match x.act g.context { m with host := s.host, events := [] } with
    | .ok r m => some (r, s.resume m)
    | .error _ _ => none

def fetch (h : Host σ) (url : String) (request : Request) : Act σ Response := fun s =>
  let (answer, host, events) := h.fetch url request s.host
  let s := { s with host := host, events := events.reverse ++ s.events }
  some (answer.mapError (PluginError.fetch url), s)

end Act

structure Bridge (σ : Type) where
  setting : Setting σ
  script : String

namespace Bridge

variable {σ : Type}

def start (b : Bridge σ) : Act σ Unit :=
  Act.logged b.setting.plugin <| Act.onMachine b.setting do
    return (← Run.start b.script).mapError PluginError.scriptInit

def invoke (b : Bridge σ) (hook : String) (response : Response) : Act σ Response :=
  Act.logged b.setting.plugin <| Act.onMachine b.setting (Run.invokeHook b.script hook response)

/-- Lets go of the script; nothing of it runs from then on. -/
def release : Act σ Unit := modify fun s => { s with machine := none }

end Bridge

end ContentSource
