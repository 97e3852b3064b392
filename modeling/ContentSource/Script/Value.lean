import ContentSource.Script.Kind
import ContentSource.Script.Tree

/-! # Values and objects of scripts

A value is a primitive or a reference to an object. An object has named properties in the order in
which they were made, and may be an array, an error or a function besides. A property either holds
a value or is computed by a getter.
-/
namespace ContentSource.Script

open Text (Units)

/-- The place of an object among all objects. -/
abbrev Ref := Nat

inductive Value where
  | undefined
  | null
  | bool (b : Bool)
  | number (n : Number)
  | string (s : Units)
  | symbol (id : Nat)
  | bigInt (n : Int)
  | object (ref : Ref)
deriving Inhabited

namespace Value

def text (s : String) : Value := .string (Units.ofString s)

def int (n : Int) : Value := .number (.ofInt n)

def float (x : Float) : Value := .number (.float x)

def isUndefined : Value → Bool
  | undefined => true
  | _ => false

def isMissing : Value → Bool
  | undefined | null => true
  | _ => false

def ref? : Value → Option Ref
  | object r => some r
  | _ => none

end Value

inductive Key where
  | name (s : Units)
  | symbol (id : Nat)
deriving DecidableEq, Inhabited

namespace Key

def ofString (s : String) : Key := .name (Units.ofString s)

def ofNat (n : Nat) : Key := ofString (toString n)

def index? : Key → Option Nat
  | symbol _ => none
  | name s =>
    let us := s.toArray.toList
    if us.isEmpty || us.length > 10 || !us.all fun u => 0x30 ≤ u && u ≤ 0x39 then none
    else if us.length > 1 && us.head? == some 0x30 then none
    else
      let n := us.foldl (fun n u => n * 10 + (u.toNat - 0x30)) 0
      if n < 4294967295 then some n else none

end Key

inductive Slot where
  | data (value : Value) (writable : Bool)
  | accessor (get set : Value)
deriving Inhabited

structure Property where
  slot : Slot
  enumerable : Bool
  configurable : Bool
deriving Inhabited

def Property.ofValue (v : Value) : Property := ⟨.data v true, true, true⟩

/-- A property of a built-in object, which is not enumerated. -/
def Property.hidden (v : Value) : Property := ⟨.data v true, false, true⟩

inductive ErrorKind where
  | error | typeError | rangeError | syntaxError | referenceError | evalError | uriError
  | internalError | aggregateError
deriving DecidableEq, Repr

def ErrorKind.name : ErrorKind → String
  | error => "Error"
  | typeError => "TypeError"
  | rangeError => "RangeError"
  | syntaxError => "SyntaxError"
  | referenceError => "ReferenceError"
  | evalError => "EvalError"
  | uriError => "URIError"
  | internalError => "InternalError"
  | aggregateError => "AggregateError"

def ErrorKind.all : List ErrorKind :=
  [error, typeError, rangeError, syntaxError, referenceError, evalError, uriError, internalError,
    aggregateError]

inductive ObjectFn where
  | make | keys | values | entries | assign | create | defineProperty | defineProperties
  | getPrototypeOf | setPrototypeOf | getOwnPropertyNames | getOwnPropertyDescriptor | freeze
  | isFrozen | seal | isSealed | preventExtensions | isExtensible | is | fromEntries | hasOwn
  | hasOwnProperty | isPrototypeOf | propertyIsEnumerable | toText | toLocaleText | valueOf
  | getProto | setProto
deriving DecidableEq, Repr

inductive FunctionFn where
  | make | call | apply | bind | toText
deriving DecidableEq, Repr

inductive ArrayFn where
  | make | isArray | of | from | push | pop | shift | unshift | slice | splice | concat | join
  | reverse | indexOf | lastIndexOf | includes | forEach | map | filter | reduce | reduceRight
  | any | all | find | findIndex | sort | fill | flat | at | toText
deriving DecidableEq, Repr

inductive StringFn where
  | make | fromCharCode | fromCodePoint | charAt | charCodeAt | codePointAt | indexOf | lastIndexOf
  | includes | startsWith | endsWith | slice | substring | substr | upper | lower | trim | trimStart
  | trimEnd | split | repeat | padStart | padEnd | concat | replace | replaceAll | at | valueOf
  | localeCompare
deriving DecidableEq, Repr

inductive NumberFn where
  | make | isInteger | isSafeInteger | isFinite | isNaN | parseInt | parseFloat | toText | toFixed
  | valueOf | globalIsNaN | globalIsFinite
deriving DecidableEq, Repr

inductive MathFn where
  | abs | ceil | floor | round | trunc | sign | sqrt | pow | max | min | random
deriving DecidableEq, Repr

inductive PrimitiveFn where
  | boolean | booleanText | booleanValue | symbol | symbolText | symbolValue | symbolDescription
  | bigInt | bigIntText | bigIntValue
deriving DecidableEq, Repr

inductive PromiseFn where
  | make | resolve | reject | later
deriving DecidableEq, Repr

inductive UriFn where
  | encode | encodeComponent | decode | decodeComponent
deriving DecidableEq, Repr

inductive Builtin where
  | print | require
  | object (f : ObjectFn)
  | function (f : FunctionFn)
  | array (f : ArrayFn)
  | string (f : StringFn)
  | number (f : NumberFn)
  | math (f : MathFn)
  | primitive (f : PrimitiveFn)
  | promise (f : PromiseFn)
  | uri (f : UriFn)
  | error (k : ErrorKind)
  | errorText
  | stringify | parse
  | itself
deriving DecidableEq, Repr

inductive Callable where
  | closure (code : Code) (scope : Nat)
  | builtin (b : Builtin)
  | host (name : String)
  | bound (target this : Value) (args : List Value)

inductive Class where
  | plain | array | error | promise
  | boxed (v : Value)
  | function (c : Callable) (constructs : Bool)

structure Object where
  proto : Option Ref
  cls : Class
  props : Array (Key × Property)
  extensible : Bool

instance : Inhabited Object := ⟨⟨none, .plain, #[], true⟩⟩

namespace Object

def find? (o : Object) (k : Key) : Option Property :=
  (o.props.find? fun p => p.1 == k).map Prod.snd

def put (o : Object) (k : Key) (p : Property) : Object :=
  match o.props.findIdx? fun q => q.1 == k with
  | some i => { o with props := o.props.setIfInBounds i (k, p) }
  | none => { o with props := o.props.push (k, p) }

def remove (o : Object) (k : Key) : Object :=
  { o with props := o.props.filter fun p => p.1 != k }

/-- The keys of an object: indices in ascending order, then names and then symbols as made. -/
def keys (o : Object) : List Key :=
  let all := o.props.toList.map Prod.fst
  let indices := (all.filterMap Key.index?).mergeSort
  let names := all.filter fun
    | .name s => (Key.index? (.name s)).isNone
    | .symbol _ => false
  let symbols := all.filter fun
    | .symbol _ => true
    | .name _ => false
  indices.map Key.ofNat ++ names ++ symbols

end Object

/-- A variable: its value once it has one, and whether it may change. -/
structure Binding where
  value : Option Value
  changes : Bool
deriving Inhabited

/-- The variables of a function call or block. Only a function call has a `this`. -/
structure Scope where
  vars : Array (String × Binding)
  parent : Option Nat
  this : Option Value

instance : Inhabited Scope := ⟨⟨#[], none, none⟩⟩

end ContentSource.Script
