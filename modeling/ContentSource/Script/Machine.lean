import ContentSource.Host
import ContentSource.Script.Value

/-! # The machine that runs scripts

The machine holds all objects, scopes and symbols of a runtime, the calls that are under way, the
state of the host, and the events so far. A piece of script that runs either yields something or
stops: it throws a value, waits for a promise, or has used up the levels of nesting it was given.
Running code reaches the code nested in it only through `Context`. Whatever runs can add events but
takes none back, and adds none but those that a script can bring about; the type of a run carries
the proof of it.
-/
namespace ContentSource.Script

open Text (Units)

/-- A call under way, and the place it has reached. -/
structure Frame where
  name : String
  place : Place
  isBuiltin : Bool
deriving Inhabited

structure Machine (σ : Type) where
  objects : Array Object
  scopes : Array Scope
  symbols : Array (Option Units)
  frames : List Frame
  host : σ
  /-- The latest event first. -/
  events : List Event

inductive Stop where
  | thrown (v : Value)
  | suspended
  | exhausted

/-- What a runtime may use up: bytes of memory and bytes of stack, zero for no limit. -/
structure Limits where
  memory : Nat
  stack : Nat
deriving DecidableEq, Repr, Inhabited

inductive Completion where
  | normal
  | give (v : Value)
  | leave (label : Option String)
  | next (label : Option String)

abbrev Action (σ α : Type) := EStateM Stop (Machine σ) α

/-- What a script can bring about: fetches with the request of its plugin, lines under the name of
the plugin, and errors under that name that are about other scripts. -/
def Told (plugin : String) (request : Request) : Event → Prop
  | .fetch _ r => r = request
  | .log _ p => p = plugin
  | .error e p => p = plugin ∧ e.isAboutScript = true

namespace Action

variable {σ α β : Type} {plugin : String} {request : Request}

/-- The machine after an action, however the action ends. -/
def after (x : Action σ α) (m : Machine σ) : Machine σ :=
  match x m with
  | .ok _ n | .error _ n => n

/-- An action takes no event back and adds only what a script can bring about. -/
def IsHonest (plugin : String) (request : Request) (x : Action σ α) : Prop :=
  ∀ m, ∃ told, (x.after m).events = told ++ m.events ∧ ∀ e ∈ told, Told plugin request e

theorem IsHonest.of_events_eq {x : Action σ α} (h : ∀ m, (x.after m).events = m.events) :
    x.IsHonest plugin request := fun m => ⟨[], h m, by simp⟩

theorem IsHonest.pure (a : α) : IsHonest plugin request (pure a : Action σ α) :=
  .of_events_eq fun _ => rfl

theorem IsHonest.stop (s : Stop) : IsHonest plugin request (throw s : Action σ α) :=
  .of_events_eq fun _ => rfl

theorem IsHonest.bind {x : Action σ α} {f : α → Action σ β} (hx : x.IsHonest plugin request)
    (hf : ∀ a, (f a).IsHonest plugin request) : IsHonest plugin request (x >>= f) := by
  intro m
  obtain ⟨told, htold, hall⟩ := hx m
  have hbind : (x >>= f).after m =
      match x m with
      | .ok a n => (f a).after n
      | .error _ n => n := by
    simp only [after, Bind.bind, EStateM.bind]
    cases x m <;> rfl
  rw [hbind]
  simp only [after] at htold
  cases hm : x m with
  | ok a n =>
    obtain ⟨more, hmore, hall'⟩ := hf a n
    refine ⟨more ++ told, ?_, ?_⟩
    · simp only [hm] at htold
      rw [hmore, htold, List.append_assoc]
    · intro e he
      rcases List.mem_append.mp he with he | he
      · exact hall' e he
      · exact hall e he
  | error stop n =>
    simp only [hm] at htold
    exact ⟨told, htold, hall⟩

end Action

/-- How running code reaches the code nested in it, and what stays fixed while a script runs. -/
structure Context (σ : Type) where
  eval : Nat → Expr → Action σ Value
  exec : Nat → Stmt → Action σ Completion
  call : Value → Value → List Value → Action σ Value
  construct : Value → List Value → Action σ Value
  load : String → Action σ Unit
  host : Host σ
  plugin : String
  /-- The request that scripts are fetched with. -/
  request : Request
  limits : Limits

/-- Nested code tells no more than its surroundings may. -/
structure Context.IsHonest {σ : Type} (c : Context σ) : Prop where
  eval : ∀ i e, (c.eval i e).IsHonest c.plugin c.request
  exec : ∀ i s, (c.exec i s).IsHonest c.plugin c.request
  call : ∀ f this args, (c.call f this args).IsHonest c.plugin c.request
  construct : ∀ f args, (c.construct f args).IsHonest c.plugin c.request
  load : ∀ source, (c.load source).IsHonest c.plugin c.request

/-- What runs in a context. However it is put together, it is honest where nested code is. -/
structure Run (σ α : Type) where
  act : Context σ → Action σ α
  honest : ∀ c : Context σ, c.IsHonest → (act c).IsHonest c.plugin c.request

@[always_inline]
instance {σ : Type} : Monad (Run σ) where
  pure a := ⟨fun _ => pure a, fun _ _ => .pure a⟩
  bind x f :=
    ⟨fun c => x.act c >>= fun a => (f a).act c,
      fun c h => (x.honest c h).bind fun a => (f a).honest c h⟩

@[always_inline]
instance {σ : Type} : MonadReaderOf (Context σ) (Run σ) where
  read := ⟨fun c => pure c, fun c _ => .pure c⟩

/-! The objects that every runtime has, in the order in which they are made. -/

def objectProto : Ref := 0
def functionProto : Ref := 1
def arrayProto : Ref := 2
def stringProto : Ref := 3
def numberProto : Ref := 4
def booleanProto : Ref := 5
def symbolProto : Ref := 6
def bigIntProto : Ref := 7
def promiseProto : Ref := 8
def globalRef : Ref := 9

def errorProto : ErrorKind → Ref
  | .error => 10
  | .typeError => 11
  | .rangeError => 12
  | .syntaxError => 13
  | .referenceError => 14
  | .evalError => 15
  | .uriError => 16
  | .internalError => 17
  | .aggregateError => 18

def iteratorSymbol : Nat := 0
def toPrimitiveSymbol : Nat := 1
def toStringTagSymbol : Nat := 2
def hasInstanceSymbol : Nat := 3

namespace Run

variable {σ : Type}

def eval (scope : Nat) (e : Expr) : Run σ Value :=
  ⟨fun c => c.eval scope e, fun _ h => h.eval scope e⟩

def exec (scope : Nat) (s : Stmt) : Run σ Completion :=
  ⟨fun c => c.exec scope s, fun _ h => h.exec scope s⟩

def call (f this : Value) (args : List Value) : Run σ Value :=
  ⟨fun c => c.call f this args, fun _ h => h.call f this args⟩

def construct (f : Value) (args : List Value) : Run σ Value :=
  ⟨fun c => c.construct f args, fun _ h => h.construct f args⟩

def load (source : String) : Run σ Unit := ⟨fun c => c.load source, fun _ h => h.load source⟩

def stop {α : Type} (s : Stop) : Run σ α := ⟨fun _ => throw s, fun _ _ => .stop s⟩

def throwValue {α : Type} (v : Value) : Run σ α := stop (.thrown v)

/-- Runs something and hands over how it ended. -/
def ending {α : Type} (x : Run σ α) : Run σ (Except Stop α) :=
  ⟨fun c m =>
    match x.act c m with
    | .ok a n => .ok (.ok a) n
    | .error s n => .ok (.error s) n,
  fun c h m => by
    obtain ⟨told, htold, hall⟩ := x.honest c h m
    refine ⟨told, ?_, hall⟩
    simp only [Action.after] at htold ⊢
    cases hm : x.act c m <;> simpa only [hm] using htold⟩

def attempt {α : Type} (x : Run σ α) : Run σ (Except Value α) := do
  match ← ending x with
  | .ok a => return .ok a
  | .error (.thrown v) => return .error v
  | .error s => stop s

def machine : Run σ (Machine σ) := ⟨fun _ m => .ok m m, fun _ _ => .of_events_eq fun _ => rfl⟩

def change {α : Type} (f : Machine σ → α × Machine σ)
    (silent : ∀ m, (f m).2.events = m.events := by intro; rfl) : Run σ α :=
  ⟨fun _ m => .ok (f m).1 (f m).2, fun _ _ => .of_events_eq silent⟩

def tell (e : Context σ → Event) (told : ∀ c, Told c.plugin c.request (e c)) : Run σ Unit :=
  ⟨fun c m => .ok () { m with events := e c :: m.events },
    fun c _ m => ⟨[e c], rfl, by simpa using told c⟩⟩

def logLine (message : String) : Run σ Unit := tell (fun c => .log message c.plugin) fun _ => rfl

def logError (e : PluginError) (h : e.isAboutScript = true) : Run σ Unit :=
  tell (fun c => .error e c.plugin) fun _ => ⟨rfl, h⟩

/-- Calls the transport, which may change the state of the host, and tells so. -/
def transport (url : String) : Run σ (Except Failure Response) :=
  ⟨fun c m =>
    let (answer, s, events) := c.host.transport url c.request m.host
    .ok answer { m with host := s, events := events.reverse ++ m.events },
  fun c _ m => ⟨[.fetch url c.request], rfl, by simp [Told]⟩⟩

def object (r : Ref) : Run σ Object := do return (← machine).objects.getD r default

def setObject (r : Ref) (o : Object) : Run σ Unit :=
  change fun m => ((), { m with objects := m.objects.setIfInBounds r o })

def allocate (o : Object) : Run σ Ref :=
  change fun m => (m.objects.size, { m with objects := m.objects.push o })

def newObject : Run σ Ref := allocate ⟨some objectProto, .plain, #[], true⟩

def newArray (items : List Value) : Run σ Value := do
  let length : Property := ⟨.data (.int items.length) true, false, false⟩
  let elements := items.zipIdx.map fun p => (Key.ofNat p.2, Property.ofValue p.1)
  return .object (← allocate
    ⟨some arrayProto, .array, ((Key.ofString "length", length) :: elements).toArray, true⟩)

def newScope (parent : Option Nat) (this : Option Value) : Run σ Nat :=
  change fun m => (m.scopes.size, { m with scopes := m.scopes.push ⟨#[], parent, this⟩ })

def scope (i : Nat) : Run σ Scope := do return (← machine).scopes.getD i default

def setScope (i : Nat) (s : Scope) : Run σ Unit :=
  change fun m => ((), { m with scopes := m.scopes.setIfInBounds i s })

def setFrames (frames : List Frame) : Run σ Unit :=
  change fun m => ((), { m with frames := frames })

def reach (p : Place) : Run σ Unit := do
  match (← machine).frames with
  | f :: rest => setFrames ({ f with place := p } :: rest)
  | [] => return

/-- Runs something as a call of its own. The calls under way are the same afterwards. -/
def within {α : Type} (f : Frame) (x : Run σ α) : Run σ α := do
  let frames := (← machine).frames
  setFrames (f :: frames)
  let outcome ← ending x
  setFrames frames
  match outcome with
  | .ok a => return a
  | .error s => stop s

def frameLine (f : Frame) : String :=
  if f.isBuiltin then "    at " ++ f.name ++ " (native)\n"
  else
    "    at " ++ f.name ++ " (eval_script:" ++ toString f.place.line ++ ":" ++
      toString f.place.column ++ ")\n"

/-- The calls under way as a text, the innermost first. -/
def stackText (frames : List Frame) : String := String.join (frames.map frameLine)

def newError (proto : Ref) (message : Option Value) (stack : String) : Run σ Ref :=
  let messages := message.toList.map fun v => (Key.ofString "message", Property.hidden v)
  allocate ⟨some proto, .error,
    (messages ++ [(Key.ofString "stack", Property.hidden (.text stack))]).toArray, true⟩

def fail {α : Type} (kind : ErrorKind) (message : String) : Run σ α := do
  let frames := (← machine).frames
  let r ← newError (errorProto kind) (some (.text message)) (stackText frames)
  throwValue (.object r)

def typeError {α : Type} (message : String) : Run σ α := fail .typeError message

/-- Refuses texts that would not fit into the memory of the runtime. -/
def checkMemory (units : Nat) : Run σ Unit := do
  let limit := (← read).limits.memory
  if units ≥ 1073741823 then fail .rangeError "invalid string length"
  if limit ≠ 0 ∧ units > limit then fail .internalError "out of memory"

end Run

end ContentSource.Script
