import ContentSource.Text.CaseTable

/-! # Upper and lower case

Case mappings go from a character to a list of characters. Two characters are the same up to case
when they lie in one orbit.
-/
namespace ContentSource.Text

def pairImage? (c : Char) : List Char → Option Char
  | a :: b :: rest => if a = c then some b else pairImage? c rest
  | _ => none

def upperList : List Char := upperPairs.flatMap String.toList

def lowerList : List Char := lowerPairs.flatMap String.toList

def upperChars (c : Char) : List Char :=
  if c.toNat < 0x80 then [c.toUpper]
  else
    match pairImage? c upperList with
    | some d => [d]
    | none => ((upperLong.find? fun p => p.1 == c).map fun p => p.2.toList).getD [c]

def lowerChars (c : Char) : List Char :=
  if c.toNat < 0x80 then [c.toLower]
  else
    match pairImage? c lowerList with
    | some d => [d]
    | none => ((lowerLong.find? fun p => p.1 == c).map fun p => p.2.toList).getD [c]

def orbits : List (List Nat) :=
  (caseOrbits.flatMap fun row => row.splitOn " ").map fun w => w.toList.map Char.toNat

end ContentSource.Text
