import ContentSource.Script.Iteration
import ContentSource.Text.Utf8

/-! # Escapes in addresses

A character that may not stand in an address is written as the bytes of its UTF-8, each as a per
cent sign and two digits. What escapes a whole address leaves alone the marks that divide it, and
reading a whole address back leaves their escapes alone.
-/
namespace ContentSource.Script

open Text (Units)

namespace Uri

def isReserved (c : Char) : Bool := ";/?:@&=+$,#".toList.contains c

def isUnreserved (c : Char) : Bool := c.isAlphanum || "-_.!~*'()".toList.contains c

def hexPair (b : UInt8) : List Char :=
  let digit (n : Nat) : Char := if n < 10 then Char.ofNat (0x30 + n) else Char.ofNat (0x37 + n)
  ['%', digit (b.toNat / 16), digit (b.toNat % 16)]

def encode (whole : Bool) : List (Char ⊕ UInt16) → Option (List Char)
  | [] => some []
  | .inr _ :: _ => none
  | .inl c :: rest =>
    let piece :=
      if isUnreserved c || (whole && isReserved c) then [c]
      else (Text.Utf8.encodeChar c).flatMap hexPair
    (encode whole rest).map (piece ++ ·)

def escapedByte? : List Char → Option (UInt8 × List Char)
  | '%' :: a :: b :: rest =>
    match hexDigit? a, hexDigit? b with
    | some x, some y => some (UInt8.ofNat (x * 16 + y), rest)
    | _, _ => none
  | _ => none

def escapedBytes? : Nat → List Char → Option (List UInt8 × List Char)
  | 0, cs => some ([], cs)
  | n + 1, cs =>
    match escapedByte? cs with
    | some (b, rest) => (escapedBytes? n rest).map fun p => (b :: p.1, p.2)
    | none => none

def followers (b : UInt8) : Option Nat :=
  match Text.Utf8.lead b with
  | .done _ => some 0
  | .more p => some p.missing
  | .bad => none

/-- Reads escapes back; the number bounds the characters that are left. -/
def decode (whole : Bool) : Nat → List Char → Option (List Char)
  | 0, cs => some cs
  | _, [] => some []
  | n + 1, c :: cs =>
    if c ≠ '%' then (decode whole n cs).map (c :: ·)
    else
      match escapedByte? (c :: cs) with
      | none => none
      | some (b, rest) =>
        match followers b with
        | none => none
        | some k =>
          match escapedBytes? k rest with
          | none => none
          | some (more, rest') =>
            match Text.Utf8.decodeBytes (b :: more) with
            | [d] =>
              if d = Text.Utf8.replacement && (b :: more) != Text.Utf8.encodeChar d then none
              else if whole && isReserved d then
                (decode whole n rest').map ((c :: cs).take 3 ++ ·)
              else (decode whole n rest').map (d :: ·)
            | _ => none

end Uri

open Run in
def UriFn.run {σ : Type} (f : UriFn) (args : List Value) : Run σ Value := do
  let s ← toText (argument args 0)
  let cs := Text.charsOfUnits s.toArray.toList
  match f with
  | .encode | .encodeComponent =>
    match Uri.encode (f == .encode) cs with
    | some out => return .string (Units.ofChars out)
    | none => fail .uriError "invalid character"
  | .decode | .decodeComponent =>
    match s.toString? with
    | none => return .string s
    | some t =>
      match Uri.decode (f == .decode) (t.length + 1) t.toList with
      | some out => return .string (Units.ofChars out)
      | none => fail .uriError "malformed URI sequence"

end ContentSource.Script
