import ContentSource.Text.Case
import ContentSource.Text.Category

/-! # Patterns

A pattern stands for the stretches of a text that it matches. It takes a set of places in the text
to the set of places that a match from one of them reaches, so that alternatives and repetitions
need no trying back. A text matches when a match from any of its places reaches some place.
-/
namespace ContentSource

open Text (Ranges)

/-- A test of a place between two characters. -/
inductive Look where
  | textStart | textEnd | lineStart | lineEnd | anyLineStart | anyLineEnd
  | boundary (ascii : Bool) | inside (ascii : Bool)
  | wordStart (ascii : Bool) | wordEnd (ascii : Bool)
  | notAfterWord (ascii : Bool) | notBeforeWord (ascii : Bool)
deriving DecidableEq, Repr

inductive Pattern where
  | set (r : Ranges)
  | look (l : Look)
  | seq (ps : List Pattern)
  | alt (ps : List Pattern)
  /-- At least so many times, and at most so many if there is a bound. -/
  | repeated (p : Pattern) (least : Nat) (most : Option Nat)
deriving Inhabited, Repr

namespace Look

def isWord (ascii : Bool) : Option Char → Bool
  | none => false
  | some c =>
    c.isAlphanum || c == '_' ||
      (!ascii && c.toNat ≥ 0x80 && Text.Ranges.contains Text.wordRanges c.toNat)

def holds (l : Look) (before after : Option Char) : Bool :=
  match l with
  | textStart => before.isNone
  | textEnd => after.isNone
  | lineStart => before.isNone || before == some '\n'
  | lineEnd => after.isNone || after == some '\n'
  | anyLineStart =>
    before.isNone || before == some '\n' || (before == some '\r' && after != some '\n')
  | anyLineEnd =>
    after.isNone || after == some '\r' || (after == some '\n' && before != some '\r')
  | boundary a => isWord a before != isWord a after
  | inside a => isWord a before == isWord a after
  | wordStart a => !isWord a before && isWord a after
  | wordEnd a => isWord a before && !isWord a after
  | notAfterWord a => !isWord a before
  | notBeforeWord a => !isWord a after

end Look

namespace Pattern

def union (a b : List Nat) : List Nat := (List.merge a b fun i j => decide (i ≤ j)).eraseReps

def iterate (f : List Nat → List Nat) : Nat → List Nat → List Nat
  | 0, s => s
  | n + 1, s => if s.isEmpty then s else iterate f n (f s)

def reach (f : List Nat → List Nat) : Nat → List Nat → List Nat
  | 0, s => s
  | n + 1, s =>
    let s' := union s (f s)
    if s' = s then s else reach f n s'

def charBefore (t : Array Char) (i : Nat) : Option Char := if i = 0 then none else t[i - 1]?

mutual

/-- The places that matches from some places reach. -/
def ends (t : Array Char) : Pattern → List Nat → List Nat
  | set r, s => s.filterMap fun i =>
    match t[i]? with
    | some c => if Text.Ranges.contains r c.toNat then some (i + 1) else none
    | none => none
  | look l, s => s.filter fun i => l.holds (charBefore t i) t[i]?
  | seq ps, s => endsAll t ps s
  | alt ps, s => endsAny t ps s
  | repeated p least most, s =>
    reach (fun s => ends t p s) ((most.getD (least + t.size + 1)) - least)
      (iterate (fun s => ends t p s) least s)

def endsAll (t : Array Char) : List Pattern → List Nat → List Nat
  | [], s => s
  | p :: ps, s => endsAll t ps (ends t p s)

def endsAny (t : Array Char) : List Pattern → List Nat → List Nat
  | [], _ => []
  | p :: ps, s => union (ends t p s) (endsAny t ps s)

end

def isMatch (p : Pattern) (text : String) : Bool :=
  let t := text.toList.toArray
  !(ends t p (List.range (t.size + 1))).isEmpty

end Pattern

end ContentSource
