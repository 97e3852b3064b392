import ContentSource.Pattern.Basic
import ContentSource.Pattern.Class
import ContentSource.Text.Blank

/-! # Escapes

A backslash and what follows it: a character by itself or by its code, a set by its name, or a test
of a place. What an escape stands for depends on the flags that hold where it is read.
-/
namespace ContentSource

open Text (Ranges)

namespace Pattern

/-- What holds while a part of a pattern is read. -/
structure Flags where
  ignoreCase : Bool
  multiLine : Bool
  dotAll : Bool
  unicode : Bool
  anyLineBreak : Bool
  ignoreSpace : Bool

def Flags.initial : Flags := ⟨false, false, false, true, false, false⟩

structure ReadState where
  rest : List Char
  flags : Flags
  names : List String

abbrev Read (α : Type) := StateT ReadState Option α

namespace Read

def refuse {α : Type} : Read α := fun _ => none

def rest : Read (List Char) := do return (← get).rest

def peek : Read (Option Char) := do return (← get).rest.head?

def flags : Read Flags := do return (← get).flags

def setFlags (f : Flags) : Read Unit := modify fun s => { s with flags := f }

def setRest (cs : List Char) : Read Unit := modify fun s => { s with rest := cs }

def bump : Read Unit := modify fun s => { s with rest := s.rest.drop 1 }

def withoutSpace : Nat → List Char → List Char
  | 0, cs => cs
  | n + 1, cs =>
    match cs with
    | '#' :: more => withoutSpace n ((more.dropWhile (· != '\n')).drop 1)
    | c :: more => if Text.isBlank c then withoutSpace n more else cs
    | [] => []

def skipSpace : Read Unit := do
  if (← flags).ignoreSpace then
    let cs ← rest
    setRest (withoutSpace cs.length cs)

/-- Goes on by one character and past blanks, and says whether anything is left. -/
def next : Read Bool := do
  bump
  skipSpace
  return !(← rest).isEmpty

def must (b : Bool) : Read Unit := if b then pure () else refuse

def current : Read Char := do
  match ← peek with
  | some c => return c
  | none => refuse

def collect (test : Char → Bool) : Nat → List Char → Read (List Char)
  | 0, acc => return acc.reverse
  | n + 1, acc => do
    match ← peek with
    | some c =>
      if test c then
        discard next
        collect test n (c :: acc)
      else return acc.reverse
    | none => return acc.reverse

def length : Read Nat := do return (← rest).length + 1

inductive Atom where
  /-- Two hexadecimal digits are a byte where characters are not looked at. -/
  | char (c : Char) (isByte : Bool)
  | set (r : Ranges)
  | look (l : Look)

def hexDigit? (c : Char) : Option Nat :=
  if c.isDigit then some (c.toNat - 0x30)
  else if 'a' ≤ c ∧ c ≤ 'f' then some (c.toNat - 0x57)
  else if 'A' ≤ c ∧ c ≤ 'F' then some (c.toNat - 0x37)
  else none

def charOfHex (cs : List Char) : Read Char := do
  let n := cs.foldl (fun n c => n * 16 + (hexDigit? c).getD 0) 0
  must (!cs.isEmpty && cs.all fun c => (hexDigit? c).isSome)
  must (n < 0xD800 || (0xE000 ≤ n && n ≤ 0x10FFFF))
  return Char.ofNat n

def hexRun : Nat → List Char → Read (List Char)
  | 0, acc => return acc.reverse
  | n + 1, acc => do
    let c ← current
    must (hexDigit? c).isSome
    discard next
    hexRun n (c :: acc)

def hexEscape (digits : Nat) : Read Atom := do
  must (← next)
  if (← current) = '\x7b' then
    discard next
    let cs ← collect (· != '\x7d') (← length) []
    must ((← peek) == some '\x7d')
    discard next
    return .char (← charOfHex cs) false
  else return .char (← charOfHex (← hexRun digits [])) (digits = 2)

def divide? (separator : List Char) : List Char → Option (List Char × List Char)
  | [] => none
  | c :: cs =>
    if separator.isPrefixOf (c :: cs) then some ([], (c :: cs).drop separator.length)
    else (divide? separator cs).map fun p => (c :: p.1, p.2)

def valuedClass (p : List Char × List Char) : Read Ranges := do
  match CharClass.valued? (String.ofList p.1) (String.ofList p.2) with
  | some r => return r
  | none => refuse

def classOfName (name : List Char) : Read Ranges := do
  match divide? ['!', '='] name with
  | some p => return Text.Ranges.complement (← valuedClass p)
  | none =>
    match (divide? [':'] name).or (divide? ['='] name) with
    | some p => valuedClass p
    | none =>
      match CharClass.named? (String.ofList name) with
      | some r => return r
      | none => refuse

def foldIf (f : Flags) (r : Ranges) : Ranges :=
  if !f.ignoreCase then r else if f.unicode then CharClass.fold r else CharClass.foldAscii r

/-- A set after folding, perhaps its complement. Half of a character must not match. -/
def finishSet (f : Flags) (negated : Bool) (r : Ranges) : Read Ranges := do
  let r := foldIf f r
  let r := if negated then Text.Ranges.complement r else Text.Ranges.normal r
  must (f.unicode || CharClass.isAscii r)
  return r

def propertyEscape (negated : Bool) : Read Atom := do
  must (← next)
  let c ← current
  let name ←
    if c = '\x7b' then do
      discard next
      let name ← collect (· != '\x7d') (← length) []
      must ((← peek) == some '\x7d')
      discard next
      pure name
    else do
      must (c ≠ '\\')
      discard next
      pure [c]
  let f ← flags
  must f.unicode
  return .set (← finishSet f negated (← classOfName name))

def classEscape (c : Char) : Read Atom := do
  discard bump
  let f ← flags
  let ascii := !f.unicode
  let r :=
    if c.toLower = 'd' then CharClass.digits ascii
    else if c.toLower = 's' then CharClass.blanks ascii
    else CharClass.word ascii
  let r := if c.isUpper then Text.Ranges.complement r else r
  must (f.unicode || CharClass.isAscii r)
  return .set r

def isMeta (c : Char) : Bool := "\\.+*?()|[]\x7b\x7d^$#&-~".toList.contains c

/-- Characters that may stand for themselves behind a backslash. -/
def mayEscape (c : Char) : Bool :=
  isMeta c || (c.toNat < 0x80 && !c.isAlphanum && c != '<' && c != '>')

def isBoundaryNameChar (c : Char) : Bool := c.isAlpha || c == '-'

def boundaryEscape : Read Atom := do
  let ascii := !(← flags).unicode
  let plain : Atom := .look (.boundary ascii)
  if (← peek) != some '\x7b' then return plain
  else
    let before ← rest
    must (← next)
    if !(isBoundaryNameChar (← current)) then
      setRest before
      return plain
    else
      let name ← collect isBoundaryNameChar (← length) []
      must ((← peek) == some '\x7d')
      bump
      match String.ofList name with
      | "start" => return .look (.wordStart ascii)
      | "end" => return .look (.wordEnd ascii)
      | "start-half" => return .look (.notAfterWord ascii)
      | "end-half" => return .look (.notBeforeWord ascii)
      | _ => refuse

def escape : Read Atom := do
  bump
  let c ← current
  let ascii := !(← flags).unicode
  if c.isDigit then refuse
  else if c = 'x' then hexEscape 2
  else if c = 'u' then hexEscape 4
  else if c = 'U' then hexEscape 8
  else if c = 'p' ∨ c = 'P' then propertyEscape (c = 'P')
  else if ['d', 's', 'w', 'D', 'S', 'W'].contains c then classEscape c
  else
    bump
    if mayEscape c then return .char c false
    else
      match c with
      | 'a' => return .char '\x07' false
      | 'f' => return .char '\x0c' false
      | 't' => return .char '\t' false
      | 'n' => return .char '\n' false
      | 'r' => return .char '\r' false
      | 'v' => return .char '\x0b' false
      | 'A' => return .look .textStart
      | 'z' => return .look .textEnd
      | 'b' => boundaryEscape
      | 'B' => return .look (.inside ascii)
      | '<' => return .look (.wordStart ascii)
      | '>' => return .look (.wordEnd ascii)
      | _ => refuse

end Read

end Pattern

end ContentSource
