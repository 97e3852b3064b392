import ContentSource.Text.Case
import ContentSource.Text.Category

/-! # Named sets of characters

The sets that a pattern can name: digits, blanks and word characters, the classes of ASCII, and the
categories, scripts and properties of characters. Folding adds to a set what differs from its
members only in case.
-/
namespace ContentSource.CharClass

open Text (Ranges)

def single (n : Nat) : Ranges := [(n, n)]

/-- With all characters that are the same up to case. -/
def fold (r : Ranges) : Ranges :=
  Ranges.normal <| r ++ Text.orbits.flatMap fun o =>
    if o.any fun n => Text.Ranges.contains r n then o.flatMap single else []

def foldAscii (r : Ranges) : Ranges :=
  Ranges.normal <| r ++ (List.range 26).flatMap fun k =>
    if Text.Ranges.contains r (0x41 + k) || Text.Ranges.contains r (0x61 + k) then
      [(0x41 + k, 0x41 + k), (0x61 + k, 0x61 + k)]
    else []

def isAscii (r : Ranges) : Bool := r.all fun p => p.2 < 0x80

def digits (ascii : Bool) : Ranges := if ascii then [(0x30, 0x39)] else Text.decimalRanges

def blanks (ascii : Bool) : Ranges := if ascii then [(9, 13), (0x20, 0x20)] else Text.blankRanges

def asciiWord : Ranges := [(0x30, 0x39), (0x41, 0x5A), (0x5F, 0x5F), (0x61, 0x7A)]

def word (ascii : Bool) : Ranges := if ascii then asciiWord else Text.wordRanges

def asciiNamed? : String → Option Ranges
  | "alnum" => some [(0x30, 0x39), (0x41, 0x5A), (0x61, 0x7A)]
  | "alpha" => some [(0x41, 0x5A), (0x61, 0x7A)]
  | "ascii" => some [(0, 0x7F)]
  | "blank" => some [(9, 9), (0x20, 0x20)]
  | "cntrl" => some [(0, 0x1F), (0x7F, 0x7F)]
  | "digit" => some [(0x30, 0x39)]
  | "graph" => some [(0x21, 0x7E)]
  | "lower" => some [(0x61, 0x7A)]
  | "print" => some [(0x20, 0x7E)]
  | "punct" => some [(0x21, 0x2F), (0x3A, 0x40), (0x5B, 0x60), (0x7B, 0x7E)]
  | "space" => some [(9, 13), (0x20, 0x20)]
  | "upper" => some [(0x41, 0x5A)]
  | "word" => some asciiWord
  | "xdigit" => some [(0x30, 0x39), (0x41, 0x46), (0x61, 0x66)]
  | _ => none

def named? (name : String) : Option Ranges :=
  (Text.propertyNamed? name).or ((Text.categoryNamed? name).or (Text.scriptNamed? name))

def valued? (property value : String) : Option Ranges :=
  match Text.looseName property with
  | "gc" | "generalcategory" => (allOf value).or (Text.categoryNamed? value)
  | "sc" | "script" | "scx" | "scriptextensions" => Text.scriptNamed? value
  | _ => none
where
  allOf (value : String) : Option Ranges :=
    if ["any", "ascii", "assigned"].contains (Text.looseName value) then Text.propertyNamed? value
    else none

end ContentSource.CharClass
