import ContentSource.Script.Library.Array
import ContentSource.Script.Operator

/-! # Functions of numbers

What `Number`, `Math` and the boxes of booleans, symbols and big integers do. Reading a number off
a text stops at the first character that does not belong to it.
-/
namespace ContentSource.Script

open Text (Units)

namespace Number

def nan : Number := .float (0.0 / 0.0)

def inBase (base places : Nat) (x : Float) : String :=
  let b := Decimal.Binary.ofFloat x
  let scale := Nat.pow 2 (-b.q).toNat
  let whole := b.m * Nat.pow 2 b.q.toNat / scale
  let rec fraction (r : Nat) : Nat → List Char
    | 0 => []
    | n + 1 =>
      if r = 0 then [] else Nat.digitChar (r * base / scale) :: fraction (r * base % scale) n
  let digits := fraction (b.m * Nat.pow 2 b.q.toNat % scale) places
  (if x < 0.0 then "-" else "") ++ String.ofList (wholeDigits whole) ++
    (if digits.isEmpty then "" else "." ++ String.ofList digits)
where
  wholeDigits (n : Nat) : List Char :=
    let rec go (n : Nat) : Nat → List Char → List Char
      | 0, acc => acc
      | fuel + 1, acc =>
        let acc := letterDigit (n % base) :: acc
        if n / base = 0 then acc else go (n / base) fuel acc
    go n (Nat.log2 n + 1) []
  letterDigit (d : Nat) : Char := if d < 10 then Char.ofNat (0x30 + d) else Char.ofNat (0x57 + d)

/-- A number with exactly so many places; a half goes away from zero. -/
def toPlaces (places : Nat) (x : Float) : String :=
  let b := Decimal.Binary.ofFloat x
  let scale := Nat.pow 2 (-b.q).toNat
  let n := (2 * b.m * Nat.pow 2 b.q.toNat * Nat.pow 10 places + scale) / (2 * scale)
  let ds := Nat.toDigits 10 n
  let ds := List.replicate (places + 1 - ds.length) '0' ++ ds
  let sign := if x < 0.0 && n != 0 then "-" else ""
  let whole := String.ofList (ds.take (ds.length - places))
  if places = 0 then sign ++ whole
  else sign ++ whole ++ "." ++ String.ofList (ds.drop (ds.length - places))

def skipBlanks (s : Units) : List Char :=
  (Text.charsOfUnits s.toArray.toList).map (fun c => c.elim id fun _ => '\uFFFD')
    |>.dropWhile fun c => Text.isBlank c || c == '\uFEFF'

def signed : List Char → Bool × List Char
  | '-' :: rest => (true, rest)
  | '+' :: rest => (false, rest)
  | rest => (false, rest)

def anyDigit? (c : Char) : Option Nat :=
  if c.isDigit then some (c.toNat - 0x30)
  else if 'a' ≤ c ∧ c ≤ 'z' then some (c.toNat - 0x57)
  else if 'A' ≤ c ∧ c ≤ 'Z' then some (c.toNat - 0x37)
  else none

def parseInt (s : Units) (radix : Int) : Number :=
  let (negative, body) := signed (skipBlanks s)
  let hexMark :=
    match body with
    | '0' :: 'x' :: _ | '0' :: 'X' :: _ => true
    | _ => false
  let (base, body) : Int × List Char :=
    if radix = 16 && hexMark then (16, body.drop 2)
    else if radix = 0 then (if hexMark then (16, body.drop 2) else (10, body))
    else (radix, body)
  if base < 2 ∨ base > 36 then nan
  else
    let digits := body.takeWhile fun c =>
      ((anyDigit? c).map fun d => decide ((d : Int) < base)).getD false
    if digits.isEmpty then nan
    else
      let n : Nat := digits.foldl (fun n c => n * base.toNat + (anyDigit? c).getD 0) 0
      if negative then (Number.ofInt n).negate else .ofInt n

def parseFloat (s : Units) : Number :=
  let (negative, body) := signed (skipBlanks s)
  let value : Number :=
    if "Infinity".toList.isPrefixOf body then .float (1.0 / 0.0)
    else
      let body := body.takeWhile (· != '_')
      if (body.takeWhile fun c => c.isDigit || c == '.').take 2 |>.any Char.isDigit then
        Number.ofFloat (decimalNumber body).1.toFloat
      else nan
  if negative then value.negate else value

def floatOp (f : MathFn) (x : Float) : Float :=
  match f with
  | .abs => x.abs
  | .ceil => x.ceil
  | .floor => x.floor
  | .trunc => if x < 0.0 then x.ceil else x.floor
  | .sign => if x > 0.0 then 1.0 else if x < 0.0 then -1.0 else x
  | .sqrt => x.sqrt
  | _ =>
    let low := x.floor
    if x - low >= 0.5 then (if low == -1.0 then -0.0 else low + 1.0) else low

def extreme (larger : Bool) (x y : Float) : Float :=
  if x.isNaN || y.isNaN then 0.0 / 0.0
  else if x == 0.0 && y == 0.0 then (if isNegativeZero x == larger then y else x)
  else if (x < y) == larger then y else x

end Number

namespace Run

variable {σ : Type}

def thisNumber (this : Value) : Run σ Number := do
  match this with
  | .number n => return n
  | .object r =>
    match (← object r).cls with
    | .boxed (.number n) => return n
    | _ => typeError "not a number"
  | _ => typeError "not a number"

def unboxed (this : Value) : Run σ Value := do
  match this with
  | .object r =>
    match (← object r).cls with
    | .boxed v => return v
    | _ => return this
  | _ => return this

end Run

open Run in
def NumberFn.run {σ : Type} (f : NumberFn) (this : Value) (args : List Value) : Run σ Value := do
  let first := argument args 0
  let isWhole : Value → Bool
    | .number n => Number.isWhole n.toFloat
    | _ => false
  match f with
  | .make =>
    match args with
    | [] => return .int 0
    | v :: _ =>
      match ← toNumeric v with
      | .inl n => return .number n
      | .inr n => return .number (.ofFloat (Float.ofInt n))
  | .isInteger => return .bool (isWhole first)
  | .isSafeInteger =>
    match first with
    | .number n => return .bool (isWhole first && n.toFloat.abs <= 9007199254740991.0)
    | _ => return .bool false
  | .isFinite =>
    match first with
    | .number n => return .bool n.toFloat.isFinite
    | _ => return .bool false
  | .isNaN =>
    match first with
    | .number n => return .bool n.toFloat.isNaN
    | _ => return .bool false
  | .globalIsNaN => return .bool (← toNumber first).toFloat.isNaN
  | .globalIsFinite => return .bool (← toNumber first).toFloat.isFinite
  | .parseInt =>
    let s ← Run.toText first
    return .number (Number.parseInt s (← toNumber (argument args 1)).toInt32)
  | .parseFloat => return .number (Number.parseFloat (← Run.toText first))
  | .valueOf => return .number (← thisNumber this)
  | .toText =>
    let n ← thisNumber this
    let radix ← if first.isUndefined then pure 10 else toInteger first
    if radix < 2 ∨ radix > 36 then fail .rangeError "radix must be between 2 and 36"
    if radix = 10 || !n.toFloat.isFinite then return .text n.text
    else return .text (Number.inBase radix.toNat 52 n.toFloat)
  | .toFixed =>
    let n ← thisNumber this
    let places ← toInteger first
    if places < 0 ∨ places > 100 then fail .rangeError "invalid number of digits"
    if n.toFloat.isFinite && n.toFloat.abs < 1e21 then
      return .text (Number.toPlaces places.toNat n.toFloat)
    else return .text n.text

open Run in
def MathFn.run {σ : Type} (f : MathFn) (args : List Value) : Run σ Value := do
  match f with
  | .random => return .float 0.5
  | .pow =>
    let x ← toNumber (argument args 0)
    let y ← toNumber (argument args 1)
    return .number (.ofFloat (Number.power x.toFloat y.toFloat))
  | .max | .min =>
    let ns ← args.mapM toNumber
    let larger := f == .max
    let start : Float := if larger then -1.0 / 0.0 else 1.0 / 0.0
    let x := ns.foldl (fun acc n => Number.extreme larger acc n.toFloat) start
    let allInts := ns.all fun
      | .int _ => true
      | .float _ => false
    return .number (if allInts then .ofFloat x else .float x)
  | _ => return .number (.ofFloat (Number.floatOp f (← toNumber (argument args 0)).toFloat))

open Run in
def PrimitiveFn.run {σ : Type} (f : PrimitiveFn) (this : Value) (args : List Value) :
    Run σ Value := do
  let first := argument args 0
  match f with
  | .boolean => return .bool first.truthy
  | .booleanText | .booleanValue =>
    match ← unboxed this with
    | .bool b =>
      return if f == .booleanValue then .bool b else .text (if b then "true" else "false")
    | _ => typeError "not a boolean"
  | .symbol =>
    let description ← if first.isUndefined then pure none else do pure (some (← Run.toText first))
    let id ← change fun m => (m.symbols.size, { m with symbols := m.symbols.push description })
    return .symbol id
  | .symbolText | .symbolValue | .symbolDescription =>
    match ← unboxed this with
    | .symbol id =>
      if f == .symbolValue then return .symbol id
      else if f == .symbolText then return .text (← keyText (.symbol id))
      else
        match (← machine).symbols.getD id none with
        | some s => return .string s
        | none => return .undefined
    | _ => typeError "not a symbol"
  | .bigInt =>
    match ← toPrimitive .number first with
    | .bigInt n => return .bigInt n
    | .bool b => return .bigInt (if b then 1 else 0)
    | .number n =>
      if Number.isWhole n.toFloat then return .bigInt (Number.truncate n.toFloat)
      else fail .rangeError "cannot convert to BigInt: not an integer"
    | .string s =>
      match s.toString?.map Text.trim with
      | some t =>
        let (negative, body) := Number.signed t.toList
        if body.all Char.isDigit then
          let n : Int := digitsValue 10 body
          return .bigInt (if negative then -n else n)
        else fail .syntaxError "invalid BigInt literal"
      | none => fail .syntaxError "invalid BigInt literal"
    | _ => typeError "cannot convert to BigInt"
  | .bigIntText | .bigIntValue =>
    match ← unboxed this with
    | .bigInt n => return if f == .bigIntValue then .bigInt n else .text (toString n)
    | _ => typeError "not a BigInt"

end ContentSource.Script
