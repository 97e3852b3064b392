import ContentSource.Script.Iteration

/-! # Functions of objects

What `Object` and the methods that all objects have do: listing and copying properties, defining
them with their attributes, and asking for and setting the prototype.
-/
namespace ContentSource.Script

open Text (Units)

namespace Run

variable {σ : Type}

def needObject (v : Value) : Run σ Ref := do
  match v with
  | .object r => return r
  | _ => typeError "not an object"

def describedPart (r : Ref) (name : String) : Run σ (Option Value) := do
  if ← hasProperty r (Key.ofString name) then return some (← getObject r (Key.ofString name))
  else return none

def describedFunction (r : Ref) (name message : String) : Run σ (Option Value) := do
  match ← describedPart r name with
  | none => return none
  | some f =>
    if f.isUndefined || (← isCallable f) then return some f else typeError message

/-- The description of a property that an object holds. -/
def descriptionOf (v : Value) : Run σ Description := do
  let r ← needObject v
  let enumerable ← describedPart r "enumerable"
  let configurable ← describedPart r "configurable"
  let value ← describedPart r "value"
  let writable ← describedPart r "writable"
  let get ← describedFunction r "get" "invalid getter"
  let set ← describedFunction r "set" "invalid setter"
  if (get.isSome || set.isSome) && (value.isSome || writable.isSome) then
    typeError "cannot have setter/getter and value or writable"
  return ⟨value, writable.map Value.truthy, get, set, enumerable.map Value.truthy,
    configurable.map Value.truthy⟩

def describingObject (p : Property) : Run σ Value := do
  let r ← newObject
  match p.slot with
  | .data v w =>
    setNamed r "value" v
    setNamed r "writable" (.bool w)
  | .accessor g s =>
    setNamed r "get" g
    setNamed r "set" s
  setNamed r "enumerable" (.bool p.enumerable)
  setNamed r "configurable" (.bool p.configurable)
  return .object r

def defineAll (r : Ref) (descriptions : Value) : Run σ Unit := do
  let source ← toObject descriptions
  let names ← enumerableNames source
  let parts ← names.mapM fun name => do
    return (name, ← descriptionOf (← getObject source (.name name)))
  parts.forM fun p => define r (.name p.1) p.2

def setPrototype (r : Ref) (proto : Option Ref) : Run σ Unit := do
  let o ← object r
  if o.proto ≠ proto then
    if !o.extensible then typeError "object is not extensible"
    let rec above : Nat → Option Ref → Run σ Bool
      | _, none => return false
      | 0, _ => return true
      | n + 1, some q => do if q = r then return true else above n (← object q).proto
    if ← above ((← machine).objects.size + 1) proto then typeError "circular prototype chain"
    setObject r { o with proto := proto }

def keyValue : Key → Value
  | .name s => .string s
  | .symbol id => .symbol id

def restrict (r : Ref) (f : Property → Property) : Run σ Unit := do
  let o ← object r
  setObject r { o with props := o.props.map fun p => (p.1, f p.2), extensible := false }

def sealProperty (p : Property) : Property := { p with configurable := false }

def freezeProperty (p : Property) : Property :=
  let slot : Slot :=
    match p.slot with
    | .data v _ => .data v false
    | s => s
  { p with slot := slot, configurable := false }

def isFrozenProperty (p : Property) : Bool :=
  !p.configurable &&
    match p.slot with
    | .data _ w => !w
    | .accessor .. => true

/-- Tests an object that grows no more; what is no object passes every test. -/
def restricted (v : Value) (test : Property → Bool) : Run σ Value := do
  match v with
  | .object r =>
    let o ← object r
    return .bool (!o.extensible && o.props.all fun p => test p.2)
  | _ => return .bool true

def tagText (this : Value) : Run σ Value := do
  match this with
  | .undefined => return .text "[object Undefined]"
  | .null => return .text "[object Null]"
  | _ =>
    let r ← toObject this
    match ← getObject r (.symbol toStringTagSymbol) with
    | .string s => return .string ("[object " ++ s ++ "]")
    | _ =>
      let tag :=
        match (← object r).cls with
        | .array => "Array"
        | .error => "Error"
        | .function .. => "Function"
        | .boxed (.bool _) => "Boolean"
        | .boxed (.number _) => "Number"
        | .boxed (.string _) => "String"
        | _ => "Object"
      return .text ("[object " ++ tag ++ "]")

def copyProperties (target : Ref) (source : Value) : Run σ Unit := do
  if !source.isMissing then
    let r ← toObject source
    (← ownKeys r).forM fun k => do
      match ← getOwn r k with
      | some p => if p.enumerable then setObjectProperty target (.object target) k (← getObject r k)
      | none => pure ()

end Run

open Run in
def ObjectFn.run {σ : Type} (f : ObjectFn) (this : Value) (args : List Value) : Run σ Value := do
  let first := argument args 0
  match f with
  | .make =>
    if first.isMissing then return .object (← newObject) else return .object (← toObject first)
  | .keys =>
    newArray ((← enumerableNames (← toObject first)).map .string)
  | .values =>
    let r ← toObject first
    newArray (← (← enumerableNames r).mapM fun s => getObject r (.name s))
  | .entries =>
    let r ← toObject first
    newArray (← (← enumerableNames r).mapM fun s => do
      newArray [.string s, ← getObject r (.name s)])
  | .assign =>
    let target ← toObject first
    (args.drop 1).forM (copyProperties target)
    return .object target
  | .create =>
    let proto ←
      match first with
      | .object r => pure (some r)
      | .null => pure none
      | _ => typeError "object prototype may only be an Object or null"
    let r ← allocate ⟨proto, .plain, #[], true⟩
    if !(argument args 1).isUndefined then defineAll r (argument args 1)
    return .object r
  | .defineProperty =>
    let r ← needObject first
    let k ← toKey (argument args 1)
    define r k (← descriptionOf (argument args 2))
    return first
  | .defineProperties =>
    defineAll (← needObject first) (argument args 1)
    return first
  | .getPrototypeOf =>
    match (← object (← toObject first)).proto with
    | some p => return .object p
    | none => return .null
  | .setPrototypeOf =>
    match first, argument args 1 with
    | .object r, .object p => setPrototype r (some p)
    | .object r, .null => setPrototype r none
    | _, .object _ | _, .null => if first.isMissing then typeError "not an object"
    | _, _ => typeError "not an object"
    return first
  | .getOwnPropertyNames =>
    let names := (← ownKeys (← toObject first)).filter fun
      | .name _ => true
      | .symbol _ => false
    newArray (names.map keyValue)
  | .getOwnPropertyDescriptor =>
    let r ← toObject first
    match ← getOwn r (← toKey (argument args 1)) with
    | some p => describingObject p
    | none => return .undefined
  | .freeze =>
    match first with
    | .object r => restrict r freezeProperty
    | _ => pure ()
    return first
  | .isFrozen => restricted first isFrozenProperty
  | .seal =>
    match first with
    | .object r => restrict r sealProperty
    | _ => pure ()
    return first
  | .isSealed => restricted first fun p => !p.configurable
  | .preventExtensions =>
    match first with
    | .object r => restrict r id
    | _ => pure ()
    return first
  | .isExtensible =>
    match first with
    | .object r => return .bool (← object r).extensible
    | _ => return .bool false
  | .is => return .bool (sameValue first (argument args 1))
  | .fromEntries =>
    let r ← newObject
    (← valuesOf first).forM fun entry => do
      discard (needObject entry)
      let k ← toKey (← getValue entry (Key.ofNat 0))
      putOwn r k (.ofValue (← getValue entry (Key.ofNat 1)))
    return .object r
  | .hasOwn =>
    let r ← toObject first
    return .bool (← getOwn r (← toKey (argument args 1))).isSome
  | .hasOwnProperty =>
    let k ← toKey first
    return .bool (← getOwn (← toObject this) k).isSome
  | .isPrototypeOf =>
    match first with
    | .object r =>
      let target ← toObject this
      let rec above : Nat → Option Ref → Run σ Bool
        | _, none | 0, _ => return false
        | n + 1, some q => do if q = target then return true else above n (← object q).proto
      return .bool (← above ((← machine).objects.size + 1) (← object r).proto)
    | _ => return .bool false
  | .propertyIsEnumerable =>
    let k ← toKey first
    return .bool (((← getOwn (← toObject this) k).map Property.enumerable).getD false)
  | .toText => tagText this
  | .toLocaleText => call (← getNamed this "toString") this []
  | .valueOf => return .object (← toObject this)
  | .getProto =>
    match (← object (← toObject this)).proto with
    | some p => return .object p
    | none => return .null
  | .setProto =>
    match this, first with
    | .undefined, _ | .null, _ => typeError "not an object"
    | .object r, .object p => setPrototype r (some p)
    | .object r, .null => setPrototype r none
    | _, _ => pure ()
    return .undefined

end ContentSource.Script
