import ContentSource.Script.Library.Function

/-! # Names

A name is looked up from scope to scope outwards, and last among the properties of the global
object. A name that is declared but has no value yet cannot be used, a constant cannot be set again,
and a name that nothing declares cannot be set at all. A target takes a value apart and binds its
names.
-/
namespace ContentSource.Script

open Text (Units)

namespace Run

variable {σ : Type}

/-- The scope that declares a name, and its binding; among so many scopes outwards. -/
def holderOf (name : String) : Nat → Nat → Run σ (Option (Nat × Binding))
  | 0, _ => return none
  | n + 1, i => do
    let s ← scope i
    match s.vars.find? fun p => p.1 == name with
    | some (_, b) => return some (i, b)
    | none =>
      match s.parent with
      | some p => holderOf name n p
      | none => return none

def findBinding (i : Nat) (name : String) : Run σ (Option (Nat × Binding)) := do
  holderOf name ((← machine).scopes.size + 1) i

def refuseName {α : Type} (kind : ErrorKind) (place : Place) (message : String) : Run σ α := do
  reach place
  fail kind message

def readName (i : Nat) (name : String) (place : Place) : Run σ Value := do
  match ← findBinding i name with
  | some (_, b) =>
    match b.value with
    | some v => return v
    | none => refuseName .referenceError place (name ++ " is not initialized")
  | none =>
    let k := Key.ofString name
    if ← hasProperty globalRef k then
      reach place
      getObject globalRef k
    else refuseName .referenceError place (name ++ " is not defined")

def isDeclared (i : Nat) (name : String) : Run σ Bool := do
  if (← findBinding i name).isSome then return true
  else hasProperty globalRef (Key.ofString name)

def setBinding (i : Nat) (name : String) (b : Binding) : Run σ Unit := do
  let s ← scope i
  match s.vars.findIdx? fun p => p.1 == name with
  | some j => setScope i { s with vars := s.vars.setIfInBounds j (name, b) }
  | none => setScope i { s with vars := s.vars.push (name, b) }

def writeName (i : Nat) (name : String) (v : Value) (place : Place) : Run σ Unit := do
  match ← findBinding i name with
  | some (j, b) =>
    if b.value.isNone then refuseName .referenceError place (name ++ " is not initialized")
    else if b.changes then setBinding j name { b with value := some v }
    else refuseName .typeError place ("'" ++ name ++ "' is read-only")
  | none =>
    let k := Key.ofString name
    reach place
    if ← hasProperty globalRef k then setObjectProperty globalRef (.object globalRef) k v
    else fail .referenceError (name ++ " is not defined")

def startName (i : Nat) (name : String) (v : Value) : Run σ Unit := do
  let changes := ((← findBinding i name).map fun b => b.2.changes).getD true
  setBinding i name ⟨some v, changes⟩

/-- How the names of a target are bound: set as they are, or given their first value. -/
inductive BindMode where
  | set | start
deriving DecidableEq

def bindName (mode : BindMode) (i : Nat) (name : String) (v : Value) (place : Place) : Run σ Unit :=
  match mode with
  | .set => writeName i name v place
  | .start => startName i name v

def orDefault (i : Nat) (v : Value) (default? : Option Expr) : Run σ Value := do
  match v, default? with
  | .undefined, some e => eval i e
  | _, _ => return v

def withoutKeys (v : Value) (keys : List Key) : Run σ Value := do
  let source ← toObject v
  let r ← newObject
  (← ownKeys source).forM fun k => do
    if !keys.contains k then
      match ← getOwn source k with
      | some p => if p.enumerable then putOwn r k (.ofValue (← getObject source k))
      | none => pure ()
  return .object r

mutual

def bindTarget (mode : BindMode) (i : Nat) (place : Place) : Target → Value → Run σ Unit
  | .name n, v => bindName mode i n v place
  | .object fields rest, v => do
    if v.isMissing then
      reach place
      typeError "cannot convert to object"
    let keys ← bindFields mode i place v fields
    match rest with
    | some n => bindName mode i n (← withoutKeys v keys) place
    | none => pure ()
  | .array items rest, v => do
    reach place
    let left ← bindItems mode i place items (← valuesOf v)
    match rest with
    | some t => bindTarget mode i place t (← newArray left)
    | none => pure ()

def bindFields (mode : BindMode) (i : Nat) (place : Place) (v : Value) :
    List TargetField → Run σ (List Key)
  | [] => return []
  | .mk key target default? :: more => do
    let k ← toKey (← eval i key)
    bindTarget mode i place target (← orDefault i (← getValue v k) default?)
    return k :: (← bindFields mode i place v more)

/-- Binds items one after the other, and gives the values that are left. -/
def bindItems (mode : BindMode) (i : Nat) (place : Place) :
    List TargetItem → List Value → Run σ (List Value)
  | [], vs => return vs
  | .hole :: more, vs => bindItems mode i place more (vs.drop 1)
  | .item target default? :: more, vs => do
    bindTarget mode i place target (← orDefault i (vs.headD .undefined) default?)
    bindItems mode i place more (vs.drop 1)

end

/-- Gives an error that is thrown here the calls under way as its stack, unless it has one. -/
def stamp (v : Value) : Run σ Unit := do
  match v with
  | .object r =>
    let o ← object r
    match o.cls, o.find? (Key.ofString "stack") with
    | .error, none =>
      let text := stackText (← machine).frames
      setObject r (o.put (Key.ofString "stack") (.hidden (.text text)))
    | _, _ => pure ()
  | _ => pure ()

def attemptStamped {α : Type} (x : Run σ α) : Run σ (Except Value α) := do
  match ← attempt x with
  | .ok a => return .ok a
  | .error v =>
    stamp v
    return .error v

def stamped {α : Type} (x : Run σ α) : Run σ α := do
  match ← attemptStamped x with
  | .ok a => return a
  | .error v => throwValue v

end Run

end ContentSource.Script
