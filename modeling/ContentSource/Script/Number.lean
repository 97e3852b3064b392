import ContentSource.Decimal.Shortest

/-! # Numbers of scripts

A number is kept as a 32-bit integer where it can be, and as a floating-point number otherwise. The
two spellings of one number are equal for a script, but a host can tell them apart. Texts of
numbers have the fewest digits that read back, with a point from `1e-6` up to `1e21` and an exponent
outside.
-/
namespace ContentSource.Script

inductive Number where
  | int (n : Int)
  | float (x : Float)
deriving Inhabited, Repr

namespace Number

def fitsInt (n : Int) : Bool := -2147483648 ≤ n && n ≤ 2147483647

def toFloat : Number → Float
  | int n => Float.ofInt n
  | float x => x

def ofInt (n : Int) : Number := if fitsInt n then int n else float (Float.ofInt n)

def isNegativeZero (x : Float) : Bool := x.toBits == 0x8000000000000000

def truncate (x : Float) : Int :=
  let b := Decimal.Binary.ofFloat x
  let n : Nat := if b.q ≥ 0 then b.m * Nat.pow 2 b.q.toNat else b.m / Nat.pow 2 (-b.q).toNat
  if b.negative then -(n : Int) else n

def isWhole (x : Float) : Bool := x.isFinite && Float.ofInt (truncate x) == x

def negate : Number → Number
  | int n => if n = 0 then float (-0.0) else ofInt (-n)
  | float x => float (-x)

def ofFloat (x : Float) : Number :=
  if isWhole x && !isNegativeZero x && fitsInt (truncate x) then int (truncate x) else float x

def toUInt32 (n : Number) : UInt32 :=
  let k : Int :=
    match n with
    | int k => k
    | float x => if x.isFinite then truncate x else 0
  UInt32.ofNat (k % 4294967296).toNat

def toInt32 (n : Number) : Int := Int.bmod n.toUInt32.toNat 4294967296

/-- The digits of a decimal, with its point `p` places after the first of them begins. -/
def layout (digits : List Char) (p : Int) : List Char :=
  let k := digits.length
  if (k : Int) ≤ p ∧ p ≤ 21 then digits ++ List.replicate (p.toNat - k) '0'
  else if 0 < p ∧ p ≤ 21 then digits.take p.toNat ++ '.' :: digits.drop p.toNat
  else if -6 < p ∧ p ≤ 0 then '0' :: '.' :: List.replicate (-p).toNat '0' ++ digits
  else
    let e := p - 1
    let exponent := 'e' :: (if e < 0 then '-' else '+') :: (toString e.natAbs).toList
    match digits with
    | [d] => d :: exponent
    | d :: rest => d :: '.' :: rest ++ exponent
    | [] => exponent

def floatText (x : Float) : String :=
  if x.isNaN then "NaN"
  else if x == 0.0 then "0"
  else
    let sign := if x < 0.0 then "-" else ""
    if x.isInf then sign ++ "Infinity"
    else
      let b := Decimal.Binary.ofFloat x
      let (digits, p) := Decimal.shortest b.m b.q
      sign ++ String.ofList (layout digits p)

def text : Number → String
  | int n => toString n
  | float x => floatText x

end Number

end ContentSource.Script
