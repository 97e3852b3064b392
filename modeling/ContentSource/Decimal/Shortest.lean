/-! # Shortest decimals

A finite floating-point number is `m * 2 ^ q` for a natural number `m` and an integer `q`. The reals
that round to it form an interval, whose ends belong to it when `m` is even. The shortest decimal
of the number is the one with the fewest digits in that interval, and of those the nearest.
-/
namespace ContentSource.Decimal

/-- The sign of a finite number, and the `m` and `q` of its magnitude. -/
structure Binary where
  negative : Bool
  m : Nat
  q : Int
deriving DecidableEq, Repr

def Binary.ofFloat (x : Float) : Binary :=
  let bits := x.toBits.toNat
  let fraction : Nat := bits % 4503599627370496
  let exponent : Nat := bits / 4503599627370496 % 2048
  let negative := bits / 9223372036854775808 == 1
  if exponent = 0 then ⟨negative, fraction, -1074⟩
  else ⟨negative, 4503599627370496 + fraction, Int.ofNat exponent - 1075⟩

/-- Numerator and denominator of `4 * m * 2 ^ (q - 2)` in units of `10 ^ k`, for the `m` given
last. -/
def gridRatio (q k : Int) (quarters : Nat) : Nat × Nat :=
  (quarters * Nat.pow 2 (q - 2).toNat * Nat.pow 10 (-k).toNat,
    Nat.pow 2 (2 - q).toNat * Nat.pow 10 k.toNat)

/-- The number of digits before the decimal point, or minus the number of zeros behind it. -/
def magnitude (m : Nat) (q : Int) : Int :=
  let (n, d) := gridRatio q (-400) (4 * m)
  ((Nat.toDigits 10 (n / d)).length : Int) - 400

/-- Whether `c * 10 ^ k` rounds to `m * 2 ^ q`. -/
def roundsTo (m : Nat) (q k : Int) (c : Nat) : Bool :=
  let below := if m = 4503599627370496 ∧ q > -1074 then 4 * m - 1 else 4 * m - 2
  let (low, d) := gridRatio q k below
  let (high, _) := gridRatio q k (4 * m + 2)
  if m % 2 = 0 then low ≤ c * d && c * d ≤ high else low < c * d && c * d < high

/-- The neighbour of `m * 2 ^ q` on the grid of `10 ^ k` that rounds to it, the nearer of two. -/
def onGrid? (m : Nat) (q k : Int) : Option Nat :=
  let (n, d) := gridRatio q k (4 * m)
  let c := n / d
  match roundsTo m q k c, roundsTo m q k (c + 1) with
  | true, true => if 2 * (n - c * d) ≤ d then some c else some (c + 1)
  | true, false => some c
  | false, true => some (c + 1)
  | false, false => none

def search (m : Nat) (q top : Int) (digits : Nat) : Nat → Nat × Int
  | 0 => ((onGrid? m q (top - digits)).getD 0, top - digits)
  | more + 1 =>
    match onGrid? m q (top - digits) with
    | some c => (c, top - digits)
    | none => search m q top (digits + 1) more

/-- The digits of the shortest decimal of `m * 2 ^ q`, and where its point stands:
`0.d₁d₂… * 10 ^ p`. -/
def shortest (m : Nat) (q : Int) : List Char × Int :=
  let (c, k) := search m q (magnitude m q) 1 16
  let all := Nat.toDigits 10 c
  let digits := (all.reverse.dropWhile (· == '0')).reverse
  (digits, (all.length : Int) + k)

def toFloat (digits : Nat) (exponent : Int) : Float :=
  if digits = 0 then 0.0
  else if (Nat.toDigits 10 digits).length + exponent > 400 then 1.0 / 0.0
  else if (Nat.toDigits 10 digits).length + exponent < -400 then 0.0
  else if exponent ≥ 0 then Float.ofScientific digits false exponent.toNat
  else Float.ofScientific digits true (-exponent).toNat

end ContentSource.Decimal
