import ContentSource.Script.Machine

/-! # Properties

Reading a property looks along the chain of prototypes; writing one makes a property of the object
itself, unless a setter or a read-only property stands in the way. An array keeps its length ahead
of its indices. All code is strict, so a write that cannot be done throws.
-/
namespace ContentSource.Script

open Text (Units)

namespace Run

variable {σ : Type}

def lengthKey : Key := Key.ofString "length"

def keyText (k : Key) : Run σ String := do
  match k with
  | .name s => return s.lossy
  | .symbol id =>
    return "Symbol(" ++ ((((← machine).symbols.getD id none).map Units.lossy).getD "") ++ ")"

/-- The indices and the length of a boxed string. -/
def stringProperty? (s : Units) (k : Key) : Option Property :=
  if k = lengthKey then some ⟨.data (.int s.size) false, false, false⟩
  else
    match k.index? with
    | some i =>
      if i < s.size then some ⟨.data (.string (s.extract i (i + 1))) false, true, false⟩ else none
    | none => none

def getOwn (r : Ref) (k : Key) : Run σ (Option Property) := do
  let o ← object r
  match o.cls with
  | .boxed (.string s) => return (stringProperty? s k).or (o.find? k)
  | _ => return o.find? k

def lookup (k : Key) : Nat → Ref → Run σ (Option Property)
  | 0, _ => return none
  | n + 1, r => do
    match ← getOwn r k with
    | some p => return some p
    | none =>
      match (← object r).proto with
      | some q => lookup k n q
      | none => return none

def find (r : Ref) (k : Key) : Run σ (Option Property) := do
  lookup k ((← machine).objects.size + 1) r

def hasProperty (r : Ref) (k : Key) : Run σ Bool := do return (← find r k).isSome

def getFor (r : Ref) (receiver : Value) (k : Key) : Run σ Value := do
  match ← find r k with
  | none => return .undefined
  | some p =>
    match p.slot with
    | .data v _ => return v
    | .accessor g _ => if g.isUndefined then return .undefined else call g receiver []

def getObject (r : Ref) (k : Key) : Run σ Value := getFor r (.object r) k

def holder? : Value → Option Ref
  | .object r => some r
  | .string _ => some stringProto
  | .number _ => some numberProto
  | .bool _ => some booleanProto
  | .symbol _ => some symbolProto
  | .bigInt _ => some bigIntProto
  | _ => none

def missingName : Value → String
  | .null => "null"
  | _ => "undefined"

def getValue (v : Value) (k : Key) : Run σ Value := do
  match v with
  | .string s =>
    match stringProperty? s k with
    | some ⟨.data x _, _, _⟩ => return x
    | _ => getFor stringProto v k
  | _ =>
    match holder? v with
    | some r => getFor r v k
    | none => typeError ("cannot read property '" ++ (← keyText k) ++ "' of " ++ missingName v)

def getNamed (v : Value) (name : String) : Run σ Value := getValue v (Key.ofString name)

def arrayLength (o : Object) : Nat :=
  match o.find? lengthKey with
  | some ⟨.data (.number n) _, _, _⟩ => n.toUInt32.toNat
  | _ => 0

def withLength (o : Object) (n : Nat) : Object :=
  match o.find? lengthKey with
  | some ⟨.data _ w, e, c⟩ => o.put lengthKey ⟨.data (.int n) w, e, c⟩
  | _ => o

/-- Puts a property into an object; an array grows with its indices. -/
def putOwn (r : Ref) (k : Key) (p : Property) : Run σ Unit := do
  let o ← object r
  let o' := o.put k p
  match o.cls, k.index? with
  | .array, some i => setObject r (if i < arrayLength o then o' else withLength o' (i + 1))
  | _, _ => setObject r o'

def truncateArray (r : Ref) (n : Nat) : Run σ Unit := do
  let o ← object r
  let kept := o.props.filter fun p =>
    match p.1.index? with
    | some i => i < n
    | none => true
  setObject r (withLength { o with props := kept } n)

def readOnly {α : Type} (k : Key) : Run σ α := do
  typeError ("'" ++ (← keyText k) ++ "' is read-only")

def lengthOfValue (v : Value) : Run σ Nat := do
  match v with
  | .number n =>
    if Float.ofNat n.toUInt32.toNat == n.toFloat then return n.toUInt32.toNat
    else fail .rangeError "invalid array length"
  | _ => fail .rangeError "invalid array length"

def assignOwn (r : Ref) (k : Key) (v : Value) : Run σ Unit := do
  let o ← object r
  match ← getOwn r k with
  | some p =>
    match p.slot with
    | .data _ true =>
      match o.cls with
      | .array =>
        if k = lengthKey then truncateArray r (← lengthOfValue v)
        else setObject r (o.put k { p with slot := .data v true })
      | _ => setObject r (o.put k { p with slot := .data v true })
    | _ => readOnly k
  | none =>
    if o.extensible then putOwn r k (.ofValue v) else typeError "object is not extensible"

def setObjectProperty (r : Ref) (receiver : Value) (k : Key) (v : Value) : Run σ Unit := do
  let assign : Run σ Unit := do
    match receiver with
    | .object q => assignOwn q k v
    | _ => typeError "not an object"
  match ← find r k with
  | none => assign
  | some p =>
    match p.slot with
    | .data _ true => assign
    | .data _ false => readOnly k
    | .accessor _ s =>
      if s.isUndefined then typeError "no setter for property" else discard (call s receiver [v])

def setValue (target : Value) (k : Key) (v : Value) : Run σ Unit := do
  match holder? target with
  | some r => setObjectProperty r target k v
  | none => typeError ("cannot set property '" ++ (← keyText k) ++ "' of " ++ missingName target)

def isAccessor : Slot → Bool
  | .accessor .. => true
  | .data .. => false

/-- Whether two values are the same, NaN and the signs of zero told apart from their equality. -/
def sameValue : Value → Value → Bool
  | .undefined, .undefined | .null, .null => true
  | .bool a, .bool b => a == b
  | .number a, .number b =>
    let x := a.toFloat
    let y := b.toFloat
    (x.isNaN && y.isNaN) || (x == y && Number.isNegativeZero x == Number.isNegativeZero y)
  | .string a, .string b => a == b
  | .symbol a, .symbol b => a == b
  | .bigInt a, .bigInt b => a == b
  | .object a, .object b => a == b
  | _, _ => false

/-- What a property is to become: the parts that are stated, and `none` for the others. -/
structure Description where
  value : Option Value
  writable : Option Bool
  get : Option Value
  set : Option Value
  enumerable : Option Bool
  configurable : Option Bool

def mayTake (p : Property) (d : Description) : Bool :=
  p.configurable ||
    (d.configurable != some true &&
      (d.enumerable.isNone || d.enumerable == some p.enumerable) &&
      match p.slot with
      | .data v w =>
        d.get.isNone && d.set.isNone &&
          (w || (d.writable != some true && ((d.value.map (sameValue v)).getD true)))
      | .accessor g s =>
        d.value.isNone && d.writable.isNone &&
          ((d.get.map (sameValue g)).getD true) && ((d.set.map (sameValue s)).getD true))

def described (old : Option Property) (d : Description) : Property :=
  let wantsAccessor := d.get.isSome || d.set.isSome
  let wantsData := d.value.isSome || d.writable.isSome
  let (oldValue, oldWritable, oldGet, oldSet) : Value × Bool × Value × Value :=
    match old.map Property.slot with
    | some (.data v w) => (v, w, .undefined, .undefined)
    | some (.accessor g s) => (.undefined, false, g, s)
    | none => (.undefined, false, .undefined, .undefined)
  let accessor := wantsAccessor || (!wantsData && (old.map fun p => isAccessor p.slot).getD false)
  let slot : Slot :=
    if accessor then .accessor (d.get.getD oldGet) (d.set.getD oldSet)
    else .data (d.value.getD oldValue) (d.writable.getD oldWritable)
  ⟨slot, d.enumerable.getD ((old.map Property.enumerable).getD false),
    d.configurable.getD ((old.map Property.configurable).getD false)⟩

def define (r : Ref) (k : Key) (d : Description) : Run σ Unit := do
  let o ← object r
  let old ← getOwn r k
  match old with
  | some p => if !mayTake p d then typeError "property is not configurable"
  | none => if !o.extensible then typeError "object is not extensible"
  match o.cls, k == lengthKey, d.value with
  | .array, true, some v =>
    let n ← lengthOfValue v
    truncateArray r n
    let o ← object r
    setObject r (o.put k (described (o.find? k) { d with value := none }))
  | _, _, _ => putOwn r k (described old d)

def deleteKey (r : Ref) (k : Key) : Run σ Unit := do
  match ← getOwn r k with
  | none => pure ()
  | some p =>
    if p.configurable then setObject r ((← object r).remove k)
    else typeError "could not delete property"

def ownKeys (r : Ref) : Run σ (List Key) := do
  let o ← object r
  match o.cls with
  | .boxed (.string s) => return (List.range s.size).map Key.ofNat ++ [lengthKey] ++ o.keys
  | _ => return o.keys

def enumerableNames (r : Ref) : Run σ (List Units) := do
  (← ownKeys r).filterMapM fun k => do
    match k with
    | .symbol _ => return none
    | .name s => return if ((← getOwn r k).map Property.enumerable).getD false then some s else none

def setNamed (r : Ref) (name : String) (v : Value) : Run σ Unit :=
  setObjectProperty r (.object r) (Key.ofString name) v

def isCallable (v : Value) : Run σ Bool := do
  match v with
  | .object r =>
    match (← object r).cls with
    | .function .. => return true
    | _ => return false
  | _ => return false

def newFunction (c : Callable) (constructs : Bool) (name : String) (arity : Nat) : Run σ Ref :=
  let fixed (v : Value) : Property := ⟨.data v false, false, true⟩
  allocate ⟨some functionProto, .function c constructs,
    #[(lengthKey, fixed (.int arity)), (Key.ofString "name", fixed (.text name))], true⟩

end Run

end ContentSource.Script
