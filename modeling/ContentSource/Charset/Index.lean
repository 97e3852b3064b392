/-! # Character indexes

A multi-byte charset numbers its characters by pointers. An index is the list of those characters
in pointer order, with U+FFFD where a pointer has none. A character may stand at several pointers;
charsets differ in which of them they write.
-/
namespace ContentSource.Charset

structure Index where
  chars : Array Char

namespace Index

def hole : Char := '\uFFFD'

/-- The index whose runs of characters start at the given pointers, in ascending order. -/
def ofRuns (runs : List (Nat × String)) : Index :=
  ⟨runs.foldl
    (fun acc run => acc ++ Array.replicate (run.1 - acc.size) hole ++ run.2.toList.toArray) #[]⟩

def char? (i : Index) (pointer : Nat) : Option Char :=
  i.chars[pointer]?.filter (· != hole)

def pointer? (i : Index) (c : Char) : Option Nat :=
  if c = hole then none else i.chars.findIdx? (· == c)

/-- The first pointer of a character, those between `low` and `high` left out. -/
def pointerOutside? (i : Index) (low high : Nat) (c : Char) : Option Nat :=
  match i.pointer? c with
  | some p =>
    if low ≤ p ∧ p < high then ((i.chars.drop high).findIdx? (· == c)).map (· + high) else some p
  | none => none

def pointerFrom? (i : Index) (low : Nat) (c : Char) : Option Nat :=
  if c = hole then none else ((i.chars.drop low).findIdx? (· == c)).map (· + low)

def lastPointer? (i : Index) (c : Char) : Option Nat :=
  if c = hole then none else (i.chars.reverse.findIdx? (· == c)).map fun k => i.chars.size - 1 - k

end Index

end ContentSource.Charset
