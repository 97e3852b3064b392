import ContentSource.Text.Case

/-! # Texts of code units

A script holds its strings as sequences of 16-bit code units, and may cut a character in two. Every
text is such a sequence; a sequence is a text when no half of a character stands alone in it.
-/
namespace ContentSource.Text

def unitsOfChar (c : Char) : List UInt16 :=
  let n := c.toNat
  if n < 0x10000 then [UInt16.ofNat n]
  else [UInt16.ofNat (0xD800 + (n - 0x10000) / 1024), UInt16.ofNat (0xDC00 + (n - 0x10000) % 1024)]

def isHighHalf (u : UInt16) : Bool := 0xD800 ≤ u && u < 0xDC00

def isLowHalf (u : UInt16) : Bool := 0xDC00 ≤ u && u < 0xE000

def charOfUnit (u : UInt16) : Char ⊕ UInt16 :=
  if isHighHalf u || isLowHalf u then .inr u else .inl (Char.ofNat u.toNat)

def charOfHalves (u v : UInt16) : Char :=
  Char.ofNat (0x10000 + (u.toNat - 0xD800) * 1024 + (v.toNat - 0xDC00))

/-- The characters of a list of code units; a half that stands alone is kept apart. -/
def charsOfUnits : List UInt16 → List (Char ⊕ UInt16)
  | [] => []
  | [u] => [charOfUnit u]
  | u :: v :: rest =>
    if isHighHalf u && isLowHalf v then .inl (charOfHalves u v) :: charsOfUnits rest
    else charOfUnit u :: charsOfUnits (v :: rest)

structure Units where
  toArray : Array UInt16
deriving DecidableEq, Inhabited, Hashable

namespace Units

def ofChars (cs : List Char) : Units := ⟨(cs.flatMap unitsOfChar).toArray⟩

def ofString (s : String) : Units := ofChars s.toList

instance : Coe String Units := ⟨ofString⟩

def size (u : Units) : Nat := u.toArray.size

def append (u v : Units) : Units := ⟨u.toArray ++ v.toArray⟩

instance : Append Units := ⟨append⟩

def empty : Units := ⟨#[]⟩

/-- The text, or the number of bytes that its characters take up to the first half that stands
alone. -/
def toString (u : Units) : Except Nat String :=
  go 0 [] (charsOfUnits u.toArray.toList)
where
  go (bytes : Nat) (done : List Char) : List (Char ⊕ UInt16) → Except Nat String
    | [] => .ok (String.ofList done.reverse)
    | .inl c :: rest => go (bytes + c.utf8Size) (c :: done) rest
    | .inr _ :: _ => .error bytes

def toString? (u : Units) : Option String := u.toString.toOption

/-- The text with U+FFFD for each half that stands alone. -/
def lossy (u : Units) : String :=
  String.ofList ((charsOfUnits u.toArray.toList).map fun c => c.elim id fun _ => '\uFFFD')

def extract (u : Units) (start stop : Nat) : Units := ⟨u.toArray.extract start stop⟩

def less (u v : Units) : Bool := decide (u.toArray.toList < v.toArray.toList)

def startsAt (pattern text : Units) (i : Nat) : Bool :=
  text.toArray.extract i (i + pattern.size) == pattern.toArray

/-- The first place at or after `i` where a pattern occurs, of the next `n + 1` places. -/
def findFrom (pattern text : Units) (i : Nat) : Nat → Option Nat
  | 0 => if startsAt pattern text i then some i else none
  | n + 1 => if startsAt pattern text i then some i else findFrom pattern text (i + 1) n

def find? (pattern text : Units) (i : Nat) : Option Nat :=
  if i + pattern.size ≤ text.size then findFrom pattern text i (text.size - pattern.size - i)
  else none

def findLast? (pattern text : Units) : Nat → Option Nat
  | 0 => if startsAt pattern text 0 then some 0 else none
  | n + 1 => if startsAt pattern text (n + 1) then some (n + 1) else findLast? pattern text n

def mapChars (f : Char → List Char) (u : Units) : Units :=
  ⟨((charsOfUnits u.toArray.toList).flatMap fun c =>
    match c with
    | .inl c => (f c).flatMap unitsOfChar
    | .inr h => [h]).toArray⟩

def upper (u : Units) : Units := u.mapChars upperChars

def lower (u : Units) : Units := u.mapChars lowerChars

def splitOn (separator text : Units) : List Units :=
  go 0 text.size
where
  go (start : Nat) : Nat → List Units
    | 0 => [text.extract start text.size]
    | n + 1 =>
      match find? separator text start with
      | some i => text.extract start i :: go (i + separator.size) n
      | none => [text.extract start text.size]

def repeated (u : Units) (n : Nat) : Units :=
  ⟨(List.replicate n u.toArray.toList).flatten.toArray⟩

end Units

end ContentSource.Text
