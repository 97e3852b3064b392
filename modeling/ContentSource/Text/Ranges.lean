/-! # Sets of characters as ranges

A set of characters is a list of ranges of code points, ascending and with gaps between them. Union
brings any list of ranges into that form, and the complement is taken within all code points from
zero to U+10FFFF.
-/
namespace ContentSource.Text

abbrev Ranges := List (Nat × Nat)

namespace Ranges

def top : Nat := 0x10FFFF

def contains (r : Ranges) (n : Nat) : Bool := r.any fun p => p.1 ≤ n && n ≤ p.2

def normal (r : Ranges) : Ranges :=
  mergeAscending (r.mergeSort fun a b => a.1 ≤ b.1)
where
  mergeAscending (l : Ranges) : Ranges :=
    (l.foldl
      (fun acc p =>
        match acc with
        | q :: more => if p.1 ≤ q.2 + 1 then (q.1, max q.2 p.2) :: more else p :: q :: more
        | [] => [p])
      []).reverse

def union (a b : Ranges) : Ranges := normal (a ++ b)

/-- The complement of ascending ranges from `n` on. -/
def complementFrom (n : Nat) : Ranges → Ranges
  | [] => if n ≤ top then [(n, top)] else []
  | p :: rest =>
    if n < p.1 then (n, p.1 - 1) :: complementFrom (p.2 + 1) rest else complementFrom (p.2 + 1) rest

def complement (r : Ranges) : Ranges := complementFrom 0 (normal r)

def inter (a b : Ranges) : Ranges := complement (complement a ++ complement b)

def diff (a b : Ranges) : Ranges := inter a (complement b)

def symmDiff (a b : Ranges) : Ranges := union (diff a b) (diff b a)

end Ranges

def hexNumber (cs : List Char) : Nat :=
  cs.foldl (fun n c => n * 16 + if c.isDigit then c.toNat - 0x30 else c.toLower.toNat - 0x57) 0

/-- Reads ranges such as `41-5a 61`. -/
def readRanges (s : String) : Ranges :=
  (s.splitOn " ").map fun w =>
    match w.splitOn "-" with
    | [a, b] => (hexNumber a.toList, hexNumber b.toList)
    | _ => (hexNumber w.toList, hexNumber w.toList)

end ContentSource.Text
