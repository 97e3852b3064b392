import ContentSource.Script.Statement

/-! # Calls and whole scripts

A call gets a scope of its own for its parameters and variables, and a place among the calls under
way, whose number is limited. A whole script declares its variables and functions as properties of
the global object, and its constants in the outermost scope. Everything nests at most so many levels
deep; a run that would go deeper is given up.
-/
namespace ContentSource.Script

open Text (Units)

namespace Run

variable {σ : Type}

/-- Bytes of stack that a call counts for. -/
def callSize : Nat := 1024

/-- The most calls under way when the stack has no limit. -/
def mostCalls : Nat := 4000

def callLimit (l : Limits) : Nat :=
  if l.stack = 0 then mostCalls else min (l.stack / callSize) mostCalls

def checkDepth : Run σ Unit := do
  if (← machine).frames.length ≥ callLimit (← read).limits then
    fail .rangeError "Maximum call stack size exceeded"

def argumentsObject (args : List Value) : Run σ Value := do
  let length : Property := ⟨.data (.int args.length) true, false, true⟩
  let items := args.zipIdx.map fun p => (Key.ofNat p.2, Property.ofValue p.1)
  return .object (← allocate
    ⟨some objectProto, .plain, (items ++ [(lengthKey, length)]).toArray, true⟩)

def callScope (code : Code) (outer : Nat) (this : Value) (args : List Value) : Run σ Nat := do
  let isArrow := code.kind == .arrow
  let i ← newScope (some outer) (if isArrow then none else some this)
  if !isArrow then setBinding i "arguments" ⟨some (← argumentsObject args), true⟩
  let params := Target.itemNames code.params ++ (code.rest.map Target.names).getD []
  params.forM fun n => setBinding i n ⟨none, true⟩
  let place := ((← machine).frames.head?.map Frame.place).getD default
  let left ← bindItems .start i place code.params args
  match code.rest with
  | some t => bindTarget .start i place t (← newArray left)
  | none => pure ()
  code.vars.forM fun n => do
    if !params.contains n then setBinding i n ⟨some .undefined, true⟩
  declareBlock i code.body
  return i

def runBody (code : Code) (outer : Nat) (this : Value) (args : List Value) : Run σ Value := do
  let i ← callScope code outer this args
  match ← execAll i code.body with
  | .give v => return v
  | _ => return .undefined

/-- Starts something that may wait; nobody asks how it goes on. -/
def started (x : Run σ Value) : Run σ Value := do
  match ← ending x with
  | .error .exhausted => stop .exhausted
  | _ => newPromise

def callClosure (name : String) (code : Code) (outer : Nat) (this : Value) (args : List Value) :
    Run σ Value := do
  checkDepth
  let frameName := if name.isEmpty then "<anonymous>" else name
  let body := within ⟨frameName, code.origin.place, false⟩ (stamped (runBody code outer this args))
  if code.isAsync then started body else body

def callBuiltin (name : String) (b : Builtin) (constructed : Bool) (this : Value)
    (args : List Value) : Run σ Value := do
  checkDepth
  within ⟨name, default, true⟩ (stamped (b.run constructed this args))

def ownName (o : Object) : String :=
  match o.find? (Key.ofString "name") with
  | some ⟨.data (.string s) _, _, _⟩ => s.lossy
  | _ => ""

def callValue (f this : Value) (args : List Value) : Run σ Value := do
  match f with
  | .object r =>
    let o ← object r
    match o.cls with
    | .function (.closure code outer) _ => callClosure (ownName o) code outer this args
    | .function (.builtin b) _ => callBuiltin (ownName o) b false this args
    | .function (.host name) _ =>
      checkDepth
      within ⟨name, default, true⟩ (stamped (hostCall name args))
    | .function (.bound target this first) _ => call target this (first ++ args)
    | _ => typeError "not a function"
  | _ => typeError "not a function"

def prototypeFor (r : Ref) : Run σ Ref := do
  match ← getObject r (Key.ofString "prototype") with
  | .object p => return p
  | _ => return objectProto

def constructValue (f : Value) (args : List Value) : Run σ Value := do
  match f with
  | .object r =>
    let o ← object r
    match o.cls with
    | .function (.closure code outer) true =>
      let this : Value := .object (← allocate ⟨some (← prototypeFor r), .plain, #[], true⟩)
      match ← callClosure (ownName o) code outer this args with
      | .object q => return .object q
      | _ => return this
    | .function (.builtin b) true => callBuiltin (ownName o) b true .undefined args
    | .function (.bound target _ first) true => construct target (first ++ args)
    | .function .. => typeError (ownName o ++ " is not a constructor")
    | _ => typeError "not a function"
  | _ => typeError "not a function"

/-- Refuses a name that the outermost scope or a fixed property holds already. -/
def checkFree (name : String) (lexical : Bool) : Run σ Unit := do
  let taken := (← scope 0).vars.any fun p => p.1 == name
  let fixed := ((← getOwn globalRef (Key.ofString name)).map fun p => !p.configurable).getD false
  if taken || (lexical && fixed) then
    fail .syntaxError ("redeclaration of '" ++ name ++ "'")

def declareGlobalVar (name : String) : Run σ Unit := do
  let k := Key.ofString name
  if (← getOwn globalRef k).isNone then
    putOwn globalRef k ⟨.data .undefined true, true, false⟩

def declareGlobalFunction (code : Code) : Run σ Unit := do
  let k := Key.ofString code.name
  let f ← closure code 0
  match ← getOwn globalRef k with
  | some p =>
    if p.configurable then putOwn globalRef k ⟨.data f true, true, false⟩
    else
      match p.slot with
      | .data _ true => putOwn globalRef k { p with slot := .data f true }
      | _ => typeError ("cannot define variable '" ++ code.name ++ "'")
  | none => putOwn globalRef k ⟨.data f true, true, false⟩

def declareProgram (p : Program) : Run σ Unit := do
  let lexical := blockNames p.body
  let functions := blockFunctions p.body
  lexical.forM fun n => checkFree n.1 true
  (p.vars ++ functions.map Code.name).forM fun n => checkFree n false
  lexical.forM fun n => setBinding 0 n.1 ⟨none, n.2⟩
  p.vars.forM declareGlobalVar
  functions.forM declareGlobalFunction

def runScript (source : String) : Run σ Unit := do
  match Program.read source with
  | .error e => throwSyntaxError e
  | .ok p =>
    checkDepth
    within ⟨"<eval>", ⟨1, 1⟩, false⟩ <| stamped do
      declareProgram p
      discard (execAll 0 p.body)

end Run

structure Setting (σ : Type) where
  host : Host σ
  plugin : String
  request : Request
  limits : Limits

/-- The context of code that nests at most so many levels deep. -/
def contextAt {σ : Type} (g : Setting σ) : Nat → Context σ
  | 0 =>
    { eval := fun _ _ => throw Stop.exhausted
      exec := fun _ _ => throw Stop.exhausted
      call := fun _ _ _ => throw Stop.exhausted
      construct := fun _ _ => throw Stop.exhausted
      load := fun _ => throw Stop.exhausted
      host := g.host, plugin := g.plugin, request := g.request, limits := g.limits }
  | n + 1 =>
    { eval := fun i e => (Run.evalExpr i e).act (contextAt g n)
      exec := fun i s => (Run.execStmt i s).act (contextAt g n)
      call := fun f this args => (Run.callValue f this args).act (contextAt g n)
      construct := fun f args => (Run.constructValue f args).act (contextAt g n)
      load := fun source => (Run.runScript source).act (contextAt g n)
      host := g.host, plugin := g.plugin, request := g.request, limits := g.limits }

@[simp] theorem contextAt_plugin {σ : Type} (g : Setting σ) (n : Nat) :
    (contextAt g n).plugin = g.plugin := by
  cases n <;> rfl

@[simp] theorem contextAt_request {σ : Type} (g : Setting σ) (n : Nat) :
    (contextAt g n).request = g.request := by
  cases n <;> rfl

/-- Code is honest however deep it nests: at each level it is put together from runs, which are
honest where the level below is. -/
theorem contextAt_isHonest {σ : Type} (g : Setting σ) (n : Nat) : (contextAt g n).IsHonest := by
  induction n with
  | zero =>
    exact ⟨fun _ _ => .stop _, fun _ _ => .stop _, fun _ _ _ => .stop _, fun _ _ => .stop _,
      fun _ => .stop _⟩
  | succ n ih =>
    have lift {α : Type} (x : Run σ α) : (x.act (contextAt g n)).IsHonest g.plugin g.request := by
      simpa using x.honest _ ih
    exact ⟨fun _ _ => lift _, fun _ _ => lift _, fun _ _ _ => lift _, fun _ _ => lift _,
      fun _ => lift _⟩

/-- More levels than calls can nest, however deep the expressions in them are. -/
def mostLevels : Nat := 4611686018427387904

def Setting.context {σ : Type} (g : Setting σ) : Context σ := contextAt g mostLevels

theorem Run.act_isHonest {σ α : Type} (x : Run σ α) (g : Setting σ) :
    (x.act g.context).IsHonest g.plugin g.request := by
  simpa [Setting.context] using x.honest _ (contextAt_isHonest g mostLevels)

end ContentSource.Script
