import ContentSource.Charset.Decoder
import ContentSource.Charset.Index.EucKr

/-! # EUC-KR

One byte for ASCII, two for a Korean character.
-/
namespace ContentSource.Charset

def eucKrStep : Option UInt8 → UInt8 → List Char × Option UInt8
  | none, b =>
    if b < 0x80 then ([asciiChar b], none)
    else if b = 0x80 ∨ b = 0xFF then (bad, none)
    else ([], some b)
  | some lead, b =>
    let found :=
      if 0x41 ≤ b ∧ b ≤ 0xFE then
        eucKrIndex.char? ((lead.toNat - 0x81) * 190 + (b.toNat - 0x41))
      else none
    match found with
    | some c => ([c], none)
    | none => if b < 0x80 then (bad ++ [asciiChar b], none) else (bad, none)

def eucKrDecoder : Decoder (Option UInt8) where
  start := none
  step := eucKrStep
  finish
    | none => []
    | some _ => bad

def eucKrBytes? (c : Char) : Option (List UInt8) :=
  if c.toNat < 0x80 then some [UInt8.ofNat c.toNat]
  else
    (eucKrIndex.pointer? c).map fun p =>
      [UInt8.ofNat (p / 190 + 0x81), UInt8.ofNat (p % 190 + 0x41)]

end ContentSource.Charset
