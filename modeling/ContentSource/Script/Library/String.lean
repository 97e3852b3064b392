import ContentSource.Script.Library.Array

/-! # Functions of strings

The methods of strings. Places in a string are counted in code units. A pattern to look for is
always taken as plain text.
-/
namespace ContentSource.Script

open Text (Units)

namespace Run

variable {σ : Type}

def thisText (this : Value) : Run σ Units := do
  if this.isMissing then typeError "null or undefined are forbidden" else toText this

def textArgument (args : List Value) (i : Nat) : Run σ Units := toText (argument args i)

def placeArgument (v : Value) (n default : Nat) : Run σ Nat := do
  if v.isUndefined then return default else return min (← toInteger v).toNat n

def isStringBlank (u : UInt16) : Bool :=
  match Text.charOfUnit u with
  | .inl c => Text.isBlank c && c != '\x85' || c == '\uFEFF'
  | .inr _ => false

def trimmedUnits (atStart atEnd : Bool) (s : Units) : Units :=
  let us := s.toArray.toList
  let us := if atStart then us.dropWhile isStringBlank else us
  ⟨(if atEnd then (us.reverse.dropWhile isStringBlank).reverse else us).toArray⟩

def filler (pattern : Units) (n : Nat) : Units :=
  if pattern.size = 0 then Units.empty
  else (pattern.repeated (n / pattern.size + 1)).extract 0 n

def padded (s : Units) (args : List Value) (before : Bool) : Run σ Value := do
  let n ← toLength (argument args 0)
  let pattern : Units ← if (argument args 1).isUndefined then pure " " else textArgument args 1
  if n ≤ s.size then return .string s
  else
    checkMemory n
    let fill := filler pattern (n - s.size)
    return .string (if before then fill ++ s else s ++ fill)

/-- The text of a replacement, with `$` signs opened up. -/
def expandedReplacement (s found : Units) (place : Nat) : List UInt16 → List UInt16
  | 0x24 :: 0x24 :: rest => 0x24 :: expandedReplacement s found place rest
  | 0x24 :: 0x26 :: rest => found.toArray.toList ++ expandedReplacement s found place rest
  | 0x24 :: 0x60 :: rest =>
    (s.extract 0 place).toArray.toList ++ expandedReplacement s found place rest
  | 0x24 :: 0x27 :: rest =>
    (s.extract (place + found.size) s.size).toArray.toList ++ expandedReplacement s found place rest
  | u :: rest => u :: expandedReplacement s found place rest
  | [] => []

def replacementAt (s found : Units) (place : Nat) (replacement : Value) : Run σ Units := do
  if ← isCallable replacement then
    toText (← call replacement .undefined [.string found, .int place, .string s])
  else return ⟨(expandedReplacement s found place (← toText replacement).toArray.toList).toArray⟩

/-- The places of a pattern, one after the other without overlap. -/
def placesOf (pattern s : Units) (start : Nat) : Nat → List Nat
  | 0 => []
  | n + 1 =>
    match Units.find? pattern s start with
    | some i => i :: placesOf pattern s (i + max pattern.size 1) n
    | none => []

def replaced (s : Units) (args : List Value) (all : Bool) : Run σ Value := do
  let pattern ← textArgument args 0
  let replacement := argument args 1
  let replacement ←
    if ← isCallable replacement then pure replacement else do pure (.string (← toText replacement))
  let places := placesOf pattern s 0 (if all then s.size + 1 else 1)
  let rec build (start : Nat) : List Nat → Run σ Units
    | [] => return s.extract start s.size
    | i :: rest => do
      let text ← replacementAt s pattern i replacement
      return s.extract start i ++ text ++ (← build (i + pattern.size) rest)
  let text ← build 0 places
  checkMemory text.size
  return .string text

def splitText (s : Units) (args : List Value) : Run σ Value := do
  let limit ←
    if (argument args 1).isUndefined then pure 4294967295
    else do pure (← toNumber (argument args 1)).toUInt32.toNat
  if (argument args 0).isUndefined then newArray ([.string s].take limit)
  else
    let separator ← textArgument args 0
    let parts :=
      if separator.size = 0 then s.toArray.toList.map fun u => (⟨#[u]⟩ : Units)
      else Units.splitOn separator s
    newArray ((parts.map .string).take limit)

end Run

open Run in
def StringFn.make? {σ : Type} (f : StringFn) (args : List Value) : Option (Run σ Value) :=
  match f with
  | .make => some do
    match args with
    | [] => return .text ""
    | .symbol id :: _ => return .text (← keyText (.symbol id))
    | v :: _ => return .string (← toText v)
  | .fromCharCode => some do
    let us ← args.mapM fun v => do return UInt16.ofNat (← toNumber v).toUInt32.toNat
    return .string ⟨us.toArray⟩
  | .fromCodePoint => some do
    let us ← args.mapM fun v => do
      let n ← toNumber v
      let k := Number.truncate n.toFloat
      if !(Number.isWhole n.toFloat) || k < 0 || k > 0x10FFFF then
        fail .rangeError "invalid code point"
      if 0xD800 ≤ k ∧ k < 0xE000 then return [UInt16.ofNat k.toNat]
      else return Text.unitsOfChar (Char.ofNat k.toNat)
    return .string ⟨us.flatten.toArray⟩
  | _ => none

open Run in
def StringFn.look? {σ : Type} (f : StringFn) (s : Units) (args : List Value) :
    Option (Run σ Value) :=
  match f with
  | .valueOf => some (return .string s)
  | .charAt => some do
    let i ← toInteger (argument args 0)
    return .string (if i < 0 then Units.empty else s.extract i.toNat (i.toNat + 1))
  | .charCodeAt => some do
    let i ← toInteger (argument args 0)
    match if i < 0 then none else s.toArray[i.toNat]? with
    | some u => return .int u.toNat
    | none => return .float (0.0 / 0.0)
  | .codePointAt => some do
    let i ← toInteger (argument args 0)
    match Text.charsOfUnits (if i < 0 then [] else s.toArray.toList.drop i.toNat) with
    | .inl c :: _ => return .int c.toNat
    | .inr u :: _ => return .int u.toNat
    | [] => return .undefined
  | .at => some do
    let i ← toInteger (argument args 0)
    let k := if i < 0 then (s.size : Int) + i else i
    if k < 0 ∨ k ≥ s.size then return .undefined
    else return .string (s.extract k.toNat (k.toNat + 1))
  | .indexOf => some do
    let pattern ← textArgument args 0
    let start ← placeArgument (argument args 1) s.size 0
    return .int (((Units.find? pattern s start).map Int.ofNat).getD (-1))
  | .lastIndexOf => some do
    let pattern ← textArgument args 0
    let n ← toNumber (argument args 1)
    let last ←
      if n.toFloat.isNaN then pure s.size else placeArgument (argument args 1) s.size s.size
    if pattern.size > s.size then return .int (-1)
    else
      let last := min last (s.size - pattern.size)
      return .int (((Units.findLast? pattern s last).map Int.ofNat).getD (-1))
  | .includes => some do
    let pattern ← textArgument args 0
    let start ← placeArgument (argument args 1) s.size 0
    return .bool (Units.find? pattern s start).isSome
  | .startsWith => some do
    let pattern ← textArgument args 0
    let start ← placeArgument (argument args 1) s.size 0
    return .bool (Units.startsAt pattern s start)
  | .endsWith => some do
    let pattern ← textArgument args 0
    let stop ← placeArgument (argument args 1) s.size s.size
    return .bool (pattern.size ≤ stop && Units.startsAt pattern s (stop - pattern.size))
  | .localeCompare => some do
    let t ← textArgument args 0
    return .int (if s == t then 0 else if s.less t then -1 else 1)
  | _ => none

open Run in
def StringFn.change {σ : Type} (f : StringFn) (s : Units) (args : List Value) : Run σ Value := do
  match f with
  | .slice =>
    let start ← indexArgument (argument args 0) s.size 0
    let stop ← indexArgument (argument args 1) s.size s.size
    return .string (s.extract start stop)
  | .substring =>
    let a ← placeArgument (argument args 0) s.size 0
    let b ← placeArgument (argument args 1) s.size s.size
    return .string (s.extract (min a b) (max a b))
  | .substr =>
    let start ← indexArgument (argument args 0) s.size 0
    let count ← placeArgument (argument args 1) s.size s.size
    return .string (s.extract start (start + count))
  | .upper => return .string s.upper
  | .lower => return .string s.lower
  | .trim => return .string (trimmedUnits true true s)
  | .trimStart => return .string (trimmedUnits true false s)
  | .trimEnd => return .string (trimmedUnits false true s)
  | .split => splitText s args
  | .repeat =>
    let n ← toInteger (argument args 0)
    if n < 0 ∨ n ≥ 2147483648 then fail .rangeError "invalid repeat count"
    checkMemory (s.size * n.toNat)
    return .string (s.repeated n.toNat)
  | .padStart => padded s args true
  | .padEnd => padded s args false
  | .concat =>
    let parts ← args.mapM toText
    let text := parts.foldl (· ++ ·) s
    checkMemory text.size
    return .string text
  | .replace => replaced s args false
  | .replaceAll => replaced s args true
  | _ => return .undefined

open Run in
def StringFn.run {σ : Type} (f : StringFn) (this : Value) (args : List Value) : Run σ Value := do
  match f.make? args with
  | some x => x
  | none =>
    let s ← thisText this
    match f.look? s args with
    | some x => x
    | none => f.change s args

end ContentSource.Script
