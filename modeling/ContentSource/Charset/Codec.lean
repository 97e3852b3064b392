import ContentSource.Charset.Chinese
import ContentSource.Charset.Japanese
import ContentSource.Charset.Korean
import ContentSource.Charset.SingleByteTable

/-! # Text and bytes

Writing a text in a charset never fails: a character that the charset lacks becomes a numeric
character reference. Reading never fails either: bytes that stand for nothing become U+FFFD, and
a byte order mark is an ordinary character.
-/
namespace ContentSource

open Charset in
def SingleByte.bytes? (t : SingleByte) (c : Char) : Option (List UInt8) :=
  if c.toNat < 0x80 then some [UInt8.ofNat c.toNat]
  else if c = Index.hole then none
  else (t.upper.idxOf? c).map fun k => [UInt8.ofNat (0x80 + k)]

open Charset in
def SingleByte.char (t : SingleByte) (b : UInt8) : Char :=
  if b < 0x80 then asciiChar b else (t.upper[b.toNat - 0x80]?).getD Text.Utf8.replacement

namespace Charset

def userDefinedBytes? (c : Char) : Option (List UInt8) :=
  if c.toNat < 0x80 then some [UInt8.ofNat c.toNat]
  else if 0xF780 ≤ c.toNat ∧ c.toNat ≤ 0xF7FF then some [UInt8.ofNat (c.toNat - 0xF780 + 0x80)]
  else none

def userDefinedChar (b : UInt8) : Char :=
  if b < 0x80 then asciiChar b else Char.ofNat (0xF780 + (b.toNat - 0x80))

/-- A byte that waits for the other half of its unit, and a unit that waits for a low surrogate. -/
structure Utf16State where
  byte : Option UInt8
  high : Option Nat
deriving DecidableEq, Repr

def utf16Unit (high : Option Nat) (unit : Nat) : List Char × Option Nat :=
  let isHigh := 0xD800 ≤ unit ∧ unit < 0xDC00
  let isLow := 0xDC00 ≤ unit ∧ unit < 0xE000
  match high with
  | some h =>
    if isLow then ([Char.ofNat (0x10000 + (h - 0xD800) * 1024 + (unit - 0xDC00))], none)
    else if isHigh then (bad, some unit)
    else (bad ++ [Char.ofNat unit], none)
  | none =>
    if isHigh then ([], some unit)
    else if isLow then (bad, none)
    else ([Char.ofNat unit], none)

def utf16Decoder (unitOf : UInt8 → UInt8 → Nat) : Decoder Utf16State where
  start := ⟨none, none⟩
  step s b :=
    match s.byte with
    | none => ([], { s with byte := some b })
    | some a =>
      let (cs, high) := utf16Unit s.high (unitOf a b)
      (cs, ⟨none, high⟩)
  finish s := if s.byte.isNone && s.high.isNone then [] else bad

/-- Writes each character by its own bytes, or by a reference. -/
def encodeEach (bytes? : Char → Option (List UInt8)) (cs : List Char) : List UInt8 :=
  cs.flatMap fun c => (bytes? c).getD (reference c)

def encodeChars (c : Charset) (cs : List Char) : List UInt8 :=
  match c.output with
  | gbk => encodeEach gbkBytes? cs
  | gb18030 => encodeEach gb18030Bytes? cs
  | big5 => encodeEach big5Bytes? cs
  | eucJp => encodeEach eucJpBytes? cs
  | shiftJis => encodeEach shiftJisBytes? cs
  | eucKr => encodeEach eucKrBytes? cs
  | singleByte t => encodeEach (SingleByte.bytes? t) cs
  | userDefined => encodeEach userDefinedBytes? cs
  | iso2022Jp => iso2022JpChars .ascii cs
  | _ => Text.Utf8.encodeChars cs

def decodeBytes (c : Charset) (bs : List UInt8) : List Char :=
  match c with
  | utf8 => Text.Utf8.decodeBytes bs
  | gbk | gb18030 => gbDecoder.run bs
  | big5 => big5Decoder.run bs
  | eucJp => eucJpDecoder.run bs
  | shiftJis => shiftJisDecoder.run bs
  | eucKr => eucKrDecoder.run bs
  | iso2022Jp => iso2022JpDecoder.run bs
  | singleByte t => bs.map (SingleByte.char t)
  | userDefined => bs.map userDefinedChar
  | utf16be => (utf16Decoder fun a b => a.toNat * 256 + b.toNat).run bs
  | utf16le => (utf16Decoder fun a b => b.toNat * 256 + a.toNat).run bs
  | replacement => if bs.isEmpty then [] else bad

def encode (c : Charset) (s : String) : List UInt8 := c.encodeChars s.toList

def decode (c : Charset) (bs : List UInt8) : String := String.ofList (c.decodeBytes bs)

end Charset

end ContentSource
