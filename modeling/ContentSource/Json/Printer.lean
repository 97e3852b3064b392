import ContentSource.Decimal.Shortest
import ContentSource.Json.Basic

/-! # Writing JSON

The written form of a JSON value over several lines: every item and every member on a line of its
own, two blanks deeper than the brackets around it. Empty arrays and objects stay on one line.
-/
namespace ContentSource.Json

def hexFour (n : Nat) : List Char :=
  let ds := Nat.toDigits 16 n
  List.replicate (4 - ds.length) '0' ++ ds

def quotedChar (c : Char) : List Char :=
  if c = '"' then ['\\', '"']
  else if c = '\\' then ['\\', '\\']
  else if c = '\x08' then ['\\', 'b']
  else if c = '\x0c' then ['\\', 'f']
  else if c = '\n' then ['\\', 'n']
  else if c = '\r' then ['\\', 'r']
  else if c = '\t' then ['\\', 't']
  else if c.toNat < 0x20 then '\\' :: 'u' :: hexFour c.toNat
  else [c]

def quoted (s : String) : String := String.ofList ('"' :: s.toList.flatMap quotedChar ++ ['"'])

/-- The digits of a decimal with a point or an exponent, its point `p` places after the first
begins. -/
def layout (digits : List Char) (p : Int) : List Char :=
  let k := digits.length
  if (k : Int) ≤ p ∧ p ≤ 16 then digits ++ List.replicate (p.toNat - k) '0' ++ ['.', '0']
  else if 0 < p ∧ p ≤ 16 then digits.take p.toNat ++ '.' :: digits.drop p.toNat
  else if -5 < p ∧ p ≤ 0 then '0' :: '.' :: List.replicate (-p).toNat '0' ++ digits
  else
    let exponent := 'e' :: (toString (p - 1)).toList
    match digits with
    | [d] => d :: exponent
    | d :: rest => d :: '.' :: rest ++ exponent
    | [] => exponent

/-- A floating-point number; one that is not finite is written as `null`. -/
def floatText (x : Float) : String :=
  if !x.isFinite then "null"
  else
    let b := Decimal.Binary.ofFloat x
    let sign := if b.negative then "-" else ""
    if b.m = 0 then sign ++ "0.0"
    else
      let (digits, p) := Decimal.shortest b.m b.q
      sign ++ String.ofList (layout digits p)

def block (opening closing margin : String) (lines : List String) : String :=
  if lines.isEmpty then opening ++ closing
  else
    let line := "\n" ++ margin ++ "  "
    opening ++ line ++ ("," ++ line).intercalate lines ++ "\n" ++ margin ++ closing

mutual

def write (margin : String) : Json → String
  | null => "null"
  | bool b => if b then "true" else "false"
  | int n => toString n
  | float x => floatText x
  | string s => quoted s
  | array items => block "[" "]" margin (writeItems (margin ++ "  ") items)
  | object members => block "\x7b" "\x7d" margin (writeMembers (margin ++ "  ") members)

def writeItems (margin : String) : List Json → List String
  | [] => []
  | v :: rest => write margin v :: writeItems margin rest

def writeMembers (margin : String) : List (String × Json) → List String
  | [] => []
  | (name, v) :: rest => (quoted name ++ ": " ++ write margin v) :: writeMembers margin rest

end

def pretty (v : Json) : String := write "" v

end ContentSource.Json
