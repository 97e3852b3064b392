import ContentSource.Pattern.Escape

/-! # Parts of patterns

A part of a pattern is read together with what limits it: how deeply it nests and how much room it
takes. Parts are repeated, put one after the other, or made alternatives.
-/
namespace ContentSource

open Text (Ranges)

namespace Pattern

/-- A part of a pattern, with how deeply it nests, the room it takes in bytes, and whether it can
only match the empty stretch. -/
structure Part where
  pattern : Pattern
  height : Nat
  room : Nat
  empty : Bool
  /-- A mere change of flags, which cannot be repeated. -/
  isFlags : Bool := false

namespace Read

/-- The room that a range takes: one piece for each shape of its characters. -/
def rangeRoom (p : Nat × Nat) : Nat :=
  let crosses (n : Nat) : Nat := if p.1 < n ∧ n ≤ p.2 then 1 else 0
  if p.2 < 0x80 then 8
  else 64 * (1 + crosses 0x80 + crosses 0x800 + 3 * crosses 0x10000)

def totalRoom (rooms : List Nat) : Nat := rooms.foldl (· + ·) 0

def setPart (r : Ranges) : Part :=
  ⟨.set r, 0, 32 + totalRoom (r.map rangeRoom), false, false⟩

def charPart (c : Char) : Part :=
  ⟨.set (CharClass.single c.toNat), 0, 32 * c.utf8Size, false, false⟩

def lookPart (l : Look) : Part := ⟨.look l, 0, 32, true, false⟩

def emptyPart : Part := ⟨.seq [], 0, 0, true, false⟩

def atomPart (a : Atom) : Read Part := do
  let f ← flags
  match a with
  | .set r => return setPart r
  | .look l => return lookPart l
  | .char c isByte =>
    must (f.unicode || !isByte || c.toNat < 0x80)
    if f.ignoreCase && (f.unicode || c.toNat < 0x80) then
      return setPart (foldIf f (CharClass.single c.toNat))
    else return charPart c

def dotPart : Read Part := do
  bump
  let f ← flags
  must f.unicode
  let breaks : Ranges :=
    if f.dotAll then [] else if f.anyLineBreak then [(10, 10), (13, 13)] else [(10, 10)]
  return setPart (Text.Ranges.complement breaks)

def edgePart (atStart : Bool) : Read Part := do
  bump
  let f ← flags
  return lookPart <|
    match atStart, f.multiLine, f.anyLineBreak with
    | true, false, _ => .textStart
    | true, true, false => .lineStart
    | true, true, true => .anyLineStart
    | false, false, _ => .textEnd
    | false, true, false => .lineEnd
    | false, true, true => .anyLineEnd

def repeatedPart (p : Part) (least : Nat) (most : Option Nat) : Part :=
  let (least, most) := if p.empty then (min least 1, some (min (most.getD 1) 1)) else (least, most)
  let room :=
    match most with
    | some m => p.room * least + (m - least) * (p.room + 32)
    | none => p.room * max least 1 + 64
  ⟨.repeated p.pattern least most, p.height + 1, room, p.empty || most == some 0, false⟩

def count : Read Nat := do
  discard (collect Text.isBlank (← length) [])
  let digits ← collect Char.isDigit (← length) []
  discard (collect Text.isBlank (← length) [])
  let n := digits.foldl (fun n c => n * 10 + (c.toNat - 0x30)) 0
  must (!digits.isEmpty && n < 4294967296)
  return n

def bounds : Read (Nat × Option Nat) := do
  must (← next)
  let least ← count
  let most ←
    if (← current) = ',' then do
      must (← next)
      if (← current) = '\x7d' then pure none else do pure (some (← count))
    else pure (some least)
  must ((← current) = '\x7d')
  discard next
  must ((most.map fun m => decide (least ≤ m)).getD true)
  return (least, most)

def repeatLast (done : List Part) (least : Nat) (most : Option Nat) : Read (List Part) := do
  match done with
  | [] => refuse
  | p :: more =>
    must (!p.isFlags)
    if (← peek) == some '?' then bump
    return repeatedPart p least most :: more

def seqPart (done : List Part) : Part :=
  match done.reverse with
  | [] => emptyPart
  | [p] => p
  | ps =>
    ⟨.seq (ps.map Part.pattern), (ps.map Part.height).foldl max 0 + 1, totalRoom (ps.map Part.room),
      ps.all Part.empty, false⟩

def altPart (branches : List Part) : Part :=
  match branches.reverse with
  | [] => emptyPart
  | [p] => p
  | ps =>
    ⟨.alt (ps.map Part.pattern), (ps.map Part.height).foldl max 0 + 1,
      totalRoom (ps.map Part.room) + 32 * ps.length, ps.all Part.empty, false⟩

end Read

end Pattern

end ContentSource
