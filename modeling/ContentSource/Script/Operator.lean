import ContentSource.Script.Convert

/-! # Operators

What the operators of scripts do to values. Two integers give an integer where the result is one and
fits 32 bits; arithmetic with a floating-point number stays floating-point. A sum with a text is a
text. Big integers go only with big integers.
-/
namespace ContentSource.Script

open Text (Units)

namespace Number

/-- The remainder of a division that rounds towards zero, computed without rounding. -/
def remainder (x y : Float) : Float :=
  if x.isNaN || y.isNaN || x.isInf || y == 0.0 then 0.0 / 0.0
  else if y.isInf || x == 0.0 then x
  else
    let a := Decimal.Binary.ofFloat x
    let b := Decimal.Binary.ofFloat y
    let q := min a.q b.q
    let m := a.m * Nat.pow 2 (a.q - q).toNat % (b.m * Nat.pow 2 (b.q - q).toNat)
    if m = 0 then (if x < 0.0 then -0.0 else 0.0)
    else
      let r := Float.scaleB (Float.ofNat m) q
      if x < 0.0 then -r else r

/-- A power; one to an infinite or unknown power is unknown. -/
def power (x y : Float) : Float :=
  if y.isNaN || (y.isInf && (x == 1.0 || x == -1.0)) then 0.0 / 0.0 else x ^ y

def arithmetic (op : BinaryOp) (x y : Float) : Float :=
  match op with
  | .add => x + y
  | .sub => x - y
  | .mul => x * y
  | .div => x / y
  | .mod => remainder x y
  | _ => power x y

def bitwise (op : BinaryOp) (a b : Number) : Number :=
  let x := a.toUInt32
  let y := b.toUInt32
  let signed (u : UInt32) : Number := .int (Int.bmod u.toNat 4294967296)
  match op with
  | .and => signed (x &&& y)
  | .or => signed (x ||| y)
  | .xor => signed (x ^^^ y)
  | .shiftLeft => signed (x <<< (y % 32))
  | .shiftRight => .int (a.toInt32 / Int.pow 2 (y % 32).toNat)
  | _ => .ofInt (x >>> (y % 32)).toNat

def combine (op : BinaryOp) (a b : Number) : Number :=
  match a, b with
  | .int _, .int _ => ofFloat (arithmetic op a.toFloat b.toFloat)
  | _, _ => .float (arithmetic op a.toFloat b.toFloat)

end Number

inductive Comparison where
  | less | equal | greater | unordered
deriving DecidableEq

def compareFloats (x y : Float) : Comparison :=
  if x < y then .less else if x == y then .equal else if x > y then .greater else .unordered

def compareInts (m n : Int) : Comparison :=
  if m < n then .less else if m = n then .equal else .greater

def compareIntFloat (m : Int) (y : Float) : Comparison :=
  if y.isNaN then .unordered
  else if y.isInf then (if y > 0.0 then .less else .greater)
  else
    let n := Number.truncate y
    match compareInts m n with
    | .equal => compareFloats (Float.ofInt n) y
    | c => c

def Comparison.flip : Comparison → Comparison
  | less => greater
  | greater => less
  | c => c

def Comparison.satisfies (c : Comparison) : BinaryOp → Bool
  | .less => c = less
  | .lessEqual => c = less || c = equal
  | .greater => c = greater
  | _ => c = greater || c = equal

namespace Run

variable {σ : Type}

def compare (a b : Value) : Run σ Comparison := do
  let p ← toPrimitive .number a
  let q ← toPrimitive .number b
  match p, q with
  | .string s, .string t =>
    return if s == t then .equal else if s.less t then .less else .greater
  | _, _ =>
    match ← toNumeric p, ← toNumeric q with
    | .inl x, .inl y => return compareFloats x.toFloat y.toFloat
    | .inr m, .inr n => return compareInts m n
    | .inr m, .inl y => return compareIntFloat m y.toFloat
    | .inl x, .inr n => return (compareIntFloat n x.toFloat).flip

def bigIntOperation (op : BinaryOp) (m n : Int) : Run σ Value := do
  match op with
  | .add => return .bigInt (m + n)
  | .sub => return .bigInt (m - n)
  | .mul => return .bigInt (m * n)
  | .div => if n = 0 then fail .rangeError "BigInt division by zero" else return .bigInt (m.tdiv n)
  | .mod => if n = 0 then fail .rangeError "BigInt division by zero" else return .bigInt (m.tmod n)
  | .power =>
    if n < 0 then fail .rangeError "BigInt negative exponent"
    else if n > 100000 ∧ m.natAbs > 1 then fail .rangeError "BigInt is too large to allocate"
    else return .bigInt (Int.pow m n.toNat)
  | .shiftLeft => shift n
  | .shiftRight => shift (-n)
  | .shiftRightZero => typeError "bigint operands are forbidden for >>>"
  | .and => return .bigInt (bits (· && ·))
  | .or => return .bigInt (bits (· || ·))
  | _ => return .bigInt (bits (· != ·))
where
  shift (n : Int) : Run σ Value := do
    if n > 100000 then fail .rangeError "BigInt is too large to allocate"
    else if n ≥ 0 then return .bigInt (m * Int.pow 2 n.toNat)
    else if n < -100000 then return .bigInt (if m < 0 then -1 else 0)
    else return .bigInt (m / Int.pow 2 (-n).toNat)
  /-- Works on so many bits of two's complement that both numbers fit. -/
  bits (f : Bool → Bool → Bool) : Int :=
    let width := max (Nat.log2 m.natAbs) (Nat.log2 n.natAbs) + 2
    let a := (m % Int.pow 2 width).toNat
    let b := (n % Int.pow 2 width).toNat
    let r := (List.range width).foldl (fun r i =>
      if f (a.testBit i) (b.testBit i) then r + Nat.pow 2 i else r) 0
    Int.bmod r (Nat.pow 2 width)

def isBitwise : BinaryOp → Bool
  | .and | .or | .xor | .shiftLeft | .shiftRight | .shiftRightZero => true
  | _ => false

def numericOperation (op : BinaryOp) (a b : Value) : Run σ Value := do
  match ← toNumeric a, ← toNumeric b with
  | .inl x, .inl y =>
    return .number (if isBitwise op then x.bitwise op y else x.combine op y)
  | .inr m, .inr n => bigIntOperation op m n
  | _, _ => typeError "cannot convert bigint to number"

def concat (a b : Units) : Run σ Value := do
  checkMemory (a.size + b.size)
  return .string (a ++ b)

def addition (a b : Value) : Run σ Value := do
  let p ← toPrimitive .any a
  let q ← toPrimitive .any b
  match p, q with
  | .string s, .string t => concat s t
  | .string s, _ => concat s (← primitiveText q)
  | _, .string t => concat (← primitiveText p) t
  | _, _ => numericOperation .add p q

def hasPrototype (target : Ref) : Nat → Ref → Run σ Bool
  | 0, _ => return false
  | n + 1, r => do
    match (← object r).proto with
    | none => return false
    | some q => if q = target then return true else hasPrototype target n q

/-- `instanceof` of a function, whose `bound` target stands for it if it has one. -/
def isInstance : Nat → Value → Ref → Run σ Bool
  | 0, _, _ => return false
  | n + 1, v, f => do
    match (← object f).cls with
    | .function (.bound (.object g) _ _) _ => isInstance n v g
    | _ =>
      match v with
      | .object r =>
        match ← getObject f (Key.ofString "prototype") with
        | .object p => hasPrototype p ((← machine).objects.size + 1) r
        | _ => typeError "operand 'prototype' property is not an object"
      | _ => return false

def instanceOf (v f : Value) : Run σ Bool := do
  match f with
  | .object r =>
    let custom ← getObject r (.symbol hasInstanceSymbol)
    if !custom.isMissing then return (← call custom f [v]).truthy
    else if ← isCallable f then isInstance ((← machine).objects.size + 1) v r
    else typeError "invalid 'instanceof' right operand"
  | _ => typeError "invalid 'instanceof' right operand"

def isIn (k container : Value) : Run σ Bool := do
  match container with
  | .object r => hasProperty r (← toKey k)
  | _ => typeError "invalid 'in' operand"

def binary (op : BinaryOp) (a b : Value) : Run σ Value := do
  match op with
  | .add => addition a b
  | .equal => return .bool (← looselyEqual 4 a b)
  | .notEqual => return .bool !(← looselyEqual 4 a b)
  | .same => return .bool (strictlyEqual a b)
  | .notSame => return .bool !(strictlyEqual a b)
  | .less | .lessEqual | .greater | .greaterEqual =>
    return .bool ((← compare a b).satisfies op)
  | .isIn => return .bool (← isIn a b)
  | .instanceOf => return .bool (← instanceOf a b)
  | _ => numericOperation op a b

def unary (op : UnaryOp) (v : Value) : Run σ Value := do
  match op with
  | .not => return .bool !v.truthy
  | .typeOf => return .text (← typeName v)
  | .void => return .undefined
  | .plus =>
    match ← toNumeric v with
    | .inl n => return .number n
    | .inr _ => typeError "bigint argument with unary +"
  | .negate =>
    match ← toNumeric v with
    | .inl n => return .number n.negate
    | .inr n => return .bigInt (-n)
  | .complement =>
    match ← toNumeric v with
    | .inl n => return .number (.int (-n.toInt32 - 1))
    | .inr n => return .bigInt (-n - 1)

def oneStep (increment : Bool) (n : Number ⊕ Int) : Value :=
  let one : Int := if increment then 1 else -1
  match n with
  | .inl (.int n) => .number (.ofInt (n + one))
  | .inl (.float x) => .number (.float (x + Float.ofInt one))
  | .inr n => .bigInt (n + one)

def ofNumeric : Number ⊕ Int → Value
  | .inl n => .number n
  | .inr n => .bigInt n

end Run

end ContentSource.Script
