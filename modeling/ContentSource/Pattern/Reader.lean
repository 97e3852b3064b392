import ContentSource.Pattern.Bracket
import ContentSource.Pattern.Part

/-! # Reading patterns

The written form of patterns: alternatives, groups with flags or names, repetitions, sets in
brackets, escapes and tests of places. Looking ahead or behind and references to groups are refused,
and so is a pattern that nests too deeply, would take too much room, or could match half of a
character.
-/
namespace ContentSource

namespace Pattern

namespace Read

def withFlag (f : Flags) (on : Bool) : Char → Option Flags
  | 'i' => some { f with ignoreCase := on }
  | 'm' => some { f with multiLine := on }
  | 's' => some { f with dotAll := on }
  | 'U' => some f
  | 'u' => some { f with unicode := on }
  | 'R' => some { f with anyLineBreak := on }
  | 'x' => some { f with ignoreSpace := on }
  | _ => none

def flagItems (f : Flags) (on : Bool) (seen : List Char) :
    List Char → Read (Flags × Bool × List Char)
  | [] => refuse
  | c :: cs => do
    if c = ':' ∨ c = ')' then
      must (seen.head? != some '-')
      return (f, !seen.isEmpty, c :: cs)
    else
      must (!seen.contains c)
      if c = '-' then flagItems f false (c :: seen) cs
      else
        match withFlag f on c with
        | some f => flagItems f on (c :: seen) cs
        | none => refuse

def isNameChar (first : Bool) (c : Char) : Bool :=
  c == '_' || (!first && (c == '.' || c == '[' || c == ']' || isNumber c)) || isLetter c
where
  isLetter (c : Char) : Bool :=
    c.isAlpha || (c.toNat ≥ 0x80 &&
      ((Text.propertyNamed? "Alphabetic").map fun r => Text.Ranges.contains r c.toNat).getD false)
  isNumber (c : Char) : Bool :=
    c.isDigit || (c.toNat ≥ 0x80 && Text.Ranges.contains (Text.categoryRanges "N") c.toNat)

/-- The name of a group up to its angle bracket, which no other group has. -/
def groupName : Read Unit := do
  let cs ← rest
  let name := cs.takeWhile (· != '>')
  must (name.length < cs.length)
  must ((name.head?.map (isNameChar true)).getD false && (name.drop 1).all (isNameChar false))
  let name := String.ofList name
  must (!(← get).names.contains name)
  modify fun s => { s with rest := cs.drop (name.length + 1), names := name :: s.names }

inductive Opening where
  | group
  | flagsOnly (f : Flags)
  | flagged (f : Flags)

def opening : Read Opening := do
  bump
  skipSpace
  match ← rest with
  | '?' :: '=' :: _ | '?' :: '!' :: _ | '?' :: '<' :: '=' :: _ | '?' :: '<' :: '!' :: _ => refuse
  | '?' :: 'P' :: '<' :: cs | '?' :: '<' :: cs =>
    setRest cs
    groupName
    return .group
  | '?' :: cs =>
    let f ← flags
    let (f, any, after) ← flagItems f true [] cs
    setRest (after.drop 1)
    if after.head? == some ')' then
      must any
      return .flagsOnly f
    else return .flagged f
  | _ => return .group

def groupPart (p : Part) : Part :=
  { p with height := p.height + 1, room := p.room + 64, isFlags := false }

mutual

def alternatives : Nat → List Part → Read Part
  | 0, _ => refuse
  | n + 1, branches => do
    let p ← sequence n []
    if (← peek) == some '|' then
      bump
      alternatives n (p :: branches)
    else return altPart (p :: branches)

/-- Parts one after the other, the latest first in the list. -/
def sequence : Nat → List Part → Read Part
  | 0, _ => refuse
  | n + 1, done => do
    skipSpace
    match ← peek with
    | none | some ')' | some '|' => return seqPart done
    | some '(' =>
      let p ← group n
      sequence n (p :: done)
    | some '[' =>
      let (r, height) ← bracket (← length)
      let p : Part := { setPart r with height := height }
      sequence n (p :: done)
    | some '?' =>
      bump
      sequence n (← repeatLast done 0 (some 1))
    | some '*' =>
      bump
      sequence n (← repeatLast done 0 none)
    | some '+' =>
      bump
      sequence n (← repeatLast done 1 none)
    | some '\x7b' =>
      must ((done.head?.map fun p => !p.isFlags).getD false)
      let (least, most) ← bounds
      sequence n (← repeatLast done least most)
    | some '\\' =>
      let p ← atomPart (← escape)
      sequence n (p :: done)
    | some '.' =>
      let p ← dotPart
      sequence n (p :: done)
    | some '^' =>
      let p ← edgePart true
      sequence n (p :: done)
    | some '$' =>
      let p ← edgePart false
      sequence n (p :: done)
    | some c =>
      bump
      let p ← atomPart (.char c false)
      sequence n (p :: done)

def group : Nat → Read Part
  | 0 => refuse
  | n + 1 => do
    let outer ← flags
    match ← opening with
    | .flagsOnly f =>
      setFlags f
      return { emptyPart with isFlags := true }
    | .group =>
      let p ← alternatives n []
      must ((← peek) == some ')')
      bump
      setFlags outer
      return groupPart p
    | .flagged f =>
      setFlags f
      let p ← alternatives n []
      must ((← peek) == some ')')
      bump
      setFlags outer
      return groupPart p

end

end Read

/-- How deeply a pattern may nest. -/
def maxHeight : Nat := 250

/-- The room that a pattern may take, in bytes. -/
def maxRoom : Nat := 10485760

def parse? (s : String) : Option Pattern :=
  let cs := s.toList
  match Read.alternatives (2 * cs.length + 4) [] ⟨cs, .initial, []⟩ with
  | some (p, s) =>
    if s.rest.isEmpty && p.height ≤ maxHeight && p.room ≤ maxRoom then some p.pattern else none
  | none => none

end Pattern

end ContentSource
