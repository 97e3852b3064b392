import ContentSource.Script.Access
import ContentSource.Script.Token

/-! # Conversions

How values become primitives, texts, numbers and booleans, and when two values are equal. An object
becomes a primitive through its `toString` and `valueOf`.
-/
namespace ContentSource.Script

open Text (Units)

namespace Value

def truthy : Value → Bool
  | undefined | null => false
  | bool b => b
  | number (.int n) => n != 0
  | number (.float x) => !(x.isNaN || x == 0.0)
  | string s => s.size != 0
  | bigInt n => n != 0
  | symbol _ | object _ => true

end Value

/-- Which kind of primitive a conversion asks for first. -/
inductive Hint where
  | any | number | string
deriving DecidableEq

def Hint.name : Hint → String
  | any => "default"
  | number => "number"
  | string => "string"

/-- The number that a text spells; blanks around it do not count. -/
def numberOfText (s : Units) : Number :=
  match s.toString? with
  | none => .float (0.0 / 0.0)
  | some t =>
    let cs := Text.trimChars (t.toList.map fun c => if c == '\uFEFF' then ' ' else c)
    let nan : Number := .float (0.0 / 0.0)
    match cs with
    | [] => .int 0
    | '0' :: c :: rest =>
      let base := if c = 'x' ∨ c = 'X' then 16 else if c = 'o' ∨ c = 'O' then 8
        else if c = 'b' ∨ c = 'B' then 2 else 0
      if base ≠ 0 then
        if rest.isEmpty ||
            !rest.all (fun d => ((hexDigit? d).map fun k => decide (k < base)).getD false)
        then nan
        else .ofInt (digitsValue base rest)
      else decimal cs
    | _ => decimal cs
where
  decimal (cs : List Char) : Number :=
    let nan : Number := .float (0.0 / 0.0)
    let (negative, body) :=
      match cs with
      | '-' :: rest => (true, rest)
      | '+' :: rest => (false, rest)
      | rest => (false, rest)
    let value : Number :=
      if body == "Infinity".toList then .float (1.0 / 0.0)
      else if body.contains '_' then nan
      else
        let (n, length) := decimalNumber body
        let hasDigit := (body.takeWhile fun c => c.isDigit || c == '.').any Char.isDigit
        if length = body.length && hasDigit then n else nan
    if negative then Number.ofFloat (-value.toFloat) else
      match value with
      | .float x => Number.ofFloat x
      | n => n

namespace Run

variable {σ : Type}

def tryMethods (v : Value) : List String → Run σ Value
  | [] => typeError "toPrimitive"
  | name :: rest => do
    let f ← getNamed v name
    if ← isCallable f then
      match ← call f v [] with
      | .object _ => tryMethods v rest
      | p => return p
    else tryMethods v rest

def toPrimitive (hint : Hint) (v : Value) : Run σ Value := do
  match v with
  | .object _ =>
    let exotic ← getValue v (.symbol toPrimitiveSymbol)
    if exotic.isMissing then
      tryMethods v (if hint = .string then ["toString", "valueOf"] else ["valueOf", "toString"])
    else
      match ← call exotic v [.text hint.name] with
      | .object _ => typeError "toPrimitive"
      | p => return p
  | _ => return v

def primitiveText (v : Value) : Run σ Units := do
  match v with
  | .undefined => return "undefined"
  | .null => return "null"
  | .bool b => return Units.ofString (if b then "true" else "false")
  | .number n => return Units.ofString n.text
  | .string s => return s
  | .bigInt n => return Units.ofString (toString n)
  | .symbol _ => typeError "cannot convert symbol to string"
  | .object _ => typeError "toPrimitive"

def toText (v : Value) : Run σ Units := do
  match v with
  | .string s => return s
  | _ => primitiveText (← toPrimitive .string v)

def toKey (v : Value) : Run σ Key := do
  match ← toPrimitive .string v with
  | .symbol id => return .symbol id
  | p => return .name (← primitiveText p)

def toNumeric (v : Value) : Run σ (Number ⊕ Int) := do
  match ← toPrimitive .number v with
  | .undefined => return .inl (.float (0.0 / 0.0))
  | .null => return .inl (.int 0)
  | .bool b => return .inl (.int (if b then 1 else 0))
  | .number n => return .inl n
  | .string s => return .inl (numberOfText s)
  | .bigInt n => return .inr n
  | .symbol _ => typeError "cannot convert symbol to number"
  | .object _ => typeError "toPrimitive"

def toNumber (v : Value) : Run σ Number := do
  match ← toNumeric v with
  | .inl n => return n
  | .inr _ => typeError "cannot convert bigint to number"

/-- The whole part of a number, with NaN as zero and infinities far away. -/
def toInteger (v : Value) : Run σ Int := do
  match ← toNumber v with
  | .int n => return n
  | .float x =>
    if x.isNaN then return 0
    else if x.isInf then return if x > 0.0 then 18446744073709551616 else -18446744073709551616
    else return Number.truncate x

/-- A length between zero and 2^53 - 1. -/
def toLength (v : Value) : Run σ Nat := do return min (← toInteger v).toNat 9007199254740991

def toObject (v : Value) : Run σ Ref := do
  match v with
  | .object r => return r
  | .undefined | .null => typeError "cannot convert to object"
  | _ => allocate ⟨holder? v, .boxed v, #[], true⟩

def typeName (v : Value) : Run σ String := do
  match v with
  | .undefined => return "undefined"
  | .null => return "object"
  | .bool _ => return "boolean"
  | .number _ => return "number"
  | .string _ => return "string"
  | .symbol _ => return "symbol"
  | .bigInt _ => return "bigint"
  | .object _ => return if ← isCallable v then "function" else "object"

def kind (v : Value) : Run σ Kind := do
  match v with
  | .undefined => return .undefined
  | .null => return .null
  | .bool _ => return .bool
  | .number (.int _) => return .int
  | .number (.float _) => return .float
  | .string _ => return .string
  | .symbol _ => return .symbol
  | .bigInt _ => return .bigInt
  | .object r =>
    match (← object r).cls with
    | .array => return .array
    | .promise => return .promise
    | .function _ true => return .constructor
    | .function _ false => return .function
    | _ => return .object

/-- `===` -/
def strictlyEqual (a b : Value) : Bool :=
  match a, b with
  | .number x, .number y => x.toFloat == y.toFloat
  | _, _ => sameValue a b

/-- `==`, in so many steps of conversion. -/
def looselyEqual : Nat → Value → Value → Run σ Bool
  | 0, a, b => return strictlyEqual a b
  | n + 1, a, b => do
    match a, b with
    | .undefined, .null | .null, .undefined => return true
    | .number x, .string s => return x.toFloat == (numberOfText s).toFloat
    | .string s, .number x => return x.toFloat == (numberOfText s).toFloat
    | .bool x, .bool y => return x == y
    | .bool x, _ => looselyEqual n (.int (if x then 1 else 0)) b
    | _, .bool y => looselyEqual n a (.int (if y then 1 else 0))
    | .bigInt x, .number y => return Float.ofInt x == y.toFloat
    | .number x, .bigInt y => return x.toFloat == Float.ofInt y
    | .bigInt x, .string s => return Float.ofInt x == (numberOfText s).toFloat
    | .string s, .bigInt y => return (numberOfText s).toFloat == Float.ofInt y
    | .object _, .object _ => return sameValue a b
    | .object _, .undefined | .object _, .null | .undefined, .object _ | .null, .object _ =>
      return false
    | .object _, _ => looselyEqual n (← toPrimitive .any a) b
    | _, .object _ => looselyEqual n a (← toPrimitive .any b)
    | _, _ => return strictlyEqual a b

end Run

end ContentSource.Script
