import ContentSource.Pattern.Escape

/-! # Sets in brackets

A set in brackets holds characters, ranges, named sets and further brackets. Two sets may be joined
to what they share, to what only the first has, or to what only one of them has.
-/
namespace ContentSource

open Text (Ranges)

namespace Pattern

namespace Read

/-- A set under construction: what it holds, how deeply it nests, and how many items it has. -/
structure Items where
  ranges : Ranges
  height : Nat
  count : Nat

def Items.none : Items := ⟨[], 0, 0⟩

def Items.add (s : Items) (r : Ranges) (height : Nat) : Items :=
  ⟨s.ranges ++ r, max s.height height, s.count + 1⟩

def Items.total (s : Items) : Nat := if s.count ≥ 2 then s.height + 1 else s.height

inductive SetOp where
  | inter | diff | symmDiff

def SetOp.apply : SetOp → Ranges → Ranges → Ranges
  | inter, a, b => Text.Ranges.inter a b
  | diff, a, b => Text.Ranges.diff a b
  | symmDiff, a, b => Text.Ranges.symmDiff (Text.Ranges.normal a) (Text.Ranges.normal b)

def asciiClass? (cs : List Char) : Option (Ranges × List Char) :=
  match cs with
  | '[' :: ':' :: more =>
    let (negated, more) :=
      match more with
      | '^' :: more => (true, more)
      | more => (false, more)
    let name := more.takeWhile (· != ':')
    match more.dropWhile (· != ':') with
    | ':' :: ']' :: after =>
      (CharClass.asciiNamed? (String.ofList name)).map fun r =>
        (if negated then Text.Ranges.complement r else r, after)
    | _ => none
  | _ => none

def setAtom : Read Atom := do
  match ← current with
  | '\\' => escape
  | c =>
    bump
    return .char c false

def peekSecond : Read (Option Char) := do
  let cs := (← rest).drop 1
  return (if (← flags).ignoreSpace then withoutSpace cs.length cs else cs).head?

def charOf : Atom → Read Nat
  | .char c _ => return c.toNat
  | _ => refuse

def setRange : Read Ranges := do
  let first ← setAtom
  skipSpace
  let c ← current
  let second ← peekSecond
  if c ≠ '-' || second == some ']' || second == some '-' then
    match first with
    | .char c _ => return CharClass.single c.toNat
    | .set r => return r
    | .look _ => refuse
  else
    must (← next)
    let last ← setAtom
    let a ← charOf first
    let b ← charOf last
    must (a ≤ b)
    return [(a, b)]

def setOp? (cs : List Char) : Option SetOp :=
  match cs with
  | '&' :: '&' :: _ => some .inter
  | '-' :: '-' :: _ => some .diff
  | '~' :: '~' :: _ => some .symmDiff
  | _ => none

/-- The start of a set: whether it is a complement, and its first hyphens or bracket. -/
def setStart : Read (Bool × Items) := do
  must (← next)
  let negated := (← current) = '^'
  if negated then must (← next)
  let hyphens ← collect (· == '-') (← length) []
  let items := hyphens.foldl (fun s c => s.add (CharClass.single c.toNat) 0) Items.none
  let c ← current
  if hyphens.isEmpty && c == ']' then
    must (← next)
    return (negated, items.add (CharClass.single c.toNat) 0)
  else return (negated, items)

def joined (f : Flags) (left : Option (SetOp × Items)) (s : Items) : Items :=
  match left with
  | none => s
  | some (op, l) =>
    ⟨op.apply (foldIf f l.ranges) (foldIf f s.ranges), max l.total s.total + 1, 1⟩

mutual

def bracket : Nat → Read (Ranges × Nat)
  | 0 => refuse
  | n + 1 => do
    let (negated, items) ← setStart
    let s ← setItems n none items
    let f ← flags
    return (← finishSet f negated s.ranges, s.total + 1)

def setItems : Nat → Option (SetOp × Items) → Items → Read Items
  | 0, _, _ => refuse
  | n + 1, left, s => do
    skipSpace
    let cs ← rest
    match ← current with
    | '[' =>
      match asciiClass? cs with
      | some (r, after) =>
        setRest after
        setItems n left (s.add r 0)
      | none =>
        let (r, height) ← bracket n
        setItems n left (s.add r height)
    | ']' =>
      bump
      return joined (← flags) left s
    | _ =>
      match setOp? cs with
      | some op =>
        bump
        bump
        setItems n (some (op, joined (← flags) left s)) Items.none
      | none => setItems n left (s.add (← setRange) 0)

end

end Read

end Pattern

end ContentSource
