import ContentSource.Charset.Decoder
import ContentSource.Charset.Index.Gb18030
import ContentSource.Charset.Index.Gb18030Ranges
import ContentSource.Charset.Index.Big5

/-! # GBK, GB 18030 and Big5

GBK and GB 18030 are read alike: one, two or four bytes to a character. They are written almost
alike, GBK having no four-byte characters and a byte of its own for the euro sign. Big5 has one
or two bytes to a character, and four pairs of bytes that stand for two characters each.
-/
namespace ContentSource.Charset

inductive GbState where
  | ground
  | one (first : UInt8)
  | two (first second : UInt8)
  | three (first second third : UInt8)
deriving DecidableEq, Repr

def gb18030FourByteChar? (pointer : Nat) : Option Char :=
  if (39419 < pointer && pointer < 189000) || 1237575 < pointer then none
  else if pointer = 7457 then some '\ue7c7'
  else
    (gb18030Ranges.reverse.find? fun row => row.1 ≤ pointer).map
      fun row => Char.ofNat (row.2 + (pointer - row.1))

def gb18030FourBytePointer (c : Char) : Nat :=
  if c = '\ue7c7' then 7457
  else
    match gb18030Ranges.reverse.find? fun row => row.2 ≤ c.toNat with
    | some row => row.1 + (c.toNat - row.2)
    | none => 0

def gbGround (b : UInt8) : List Char × GbState :=
  if b < 0x80 then ([asciiChar b], .ground)
  else if b = 0x80 then (['€'], .ground)
  else if b = 0xFF then (bad, .ground)
  else ([], .one b)

def gbAfterOne (first b : UInt8) : List Char × GbState :=
  if 0x30 ≤ b ∧ b ≤ 0x39 then ([], .two first b)
  else
    let pointer := (first.toNat - 0x81) * 190 + (b.toNat - if b < 0x7F then 0x40 else 0x41)
    let found := if 0x40 ≤ b ∧ b ≤ 0xFE ∧ b ≠ 0x7F then gb18030Index.char? pointer else none
    match found with
    | some c => ([c], .ground)
    | none => if b < 0x80 then (bad ++ [asciiChar b], .ground) else (bad, .ground)

def gbStep : GbState → UInt8 → List Char × GbState
  | .ground, b => gbGround b
  | .one first, b => gbAfterOne first b
  | .two first second, b =>
    if 0x81 ≤ b ∧ b ≤ 0xFE then ([], .three first second b)
    else
      let (cs, s) := gbGround b
      (bad ++ [asciiChar second] ++ cs, s)
  | .three first second third, b =>
    if 0x30 ≤ b ∧ b ≤ 0x39 then
      let pointer := (first.toNat - 0x81) * 12600 + (second.toNat - 0x30) * 1260 +
        (third.toNat - 0x81) * 10 + (b.toNat - 0x30)
      match gb18030FourByteChar? pointer with
      | some c => ([c], .ground)
      | none => (bad, .ground)
    else
      let (cs, s) := gbAfterOne third b
      (bad ++ [asciiChar second] ++ cs, s)

def gbDecoder : Decoder GbState where
  start := .ground
  step := gbStep
  finish
    | .ground => []
    | _ => bad

/-- Private-use characters that are still written in the two bytes they once had. -/
def gb18030Retired : List (Char × UInt8 × UInt8) :=
  [('\ue81e', 0xFE, 0x59), ('\ue826', 0xFE, 0x61), ('\ue82b', 0xFE, 0x66), ('\ue82c', 0xFE, 0x67),
    ('\ue832', 0xFE, 0x6D), ('\ue843', 0xFE, 0x7E), ('\ue854', 0xFE, 0x90), ('\ue864', 0xFE, 0xA0),
    ('\ue78d', 0xA6, 0xD9), ('\ue78e', 0xA6, 0xDA), ('\ue78f', 0xA6, 0xDB), ('\ue790', 0xA6, 0xDC),
    ('\ue791', 0xA6, 0xDD), ('\ue792', 0xA6, 0xDE), ('\ue793', 0xA6, 0xDF), ('\ue794', 0xA6, 0xEC),
    ('\ue795', 0xA6, 0xED), ('\ue796', 0xA6, 0xF3)]

def gb18030TwoBytes? (c : Char) : Option (List UInt8) :=
  match gb18030Retired.find? fun row => row.1 == c with
  | some row => some [row.2.1, row.2.2]
  | none => (gb18030Index.pointer? c).map (pointerBytes 190 0x3F 0x41)

def gb18030FourBytes (c : Char) : List UInt8 :=
  let p := gb18030FourBytePointer c
  [UInt8.ofNat (p / 12600 + 0x81), UInt8.ofNat (p / 1260 % 10 + 0x30),
    UInt8.ofNat (p / 10 % 126 + 0x81), UInt8.ofNat (p % 10 + 0x30)]

def gb18030Bytes? (c : Char) : Option (List UInt8) :=
  if c.toNat < 0x80 then some [UInt8.ofNat c.toNat]
  else if c = '\ue5e5' then none
  else some ((gb18030TwoBytes? c).getD (gb18030FourBytes c))

def gbkBytes? (c : Char) : Option (List UInt8) :=
  if c.toNat < 0x80 then some [UInt8.ofNat c.toNat]
  else if c = '\ue5e5' then none
  else if c = '€' then some [0x80]
  else gb18030TwoBytes? c

/-- The pointers of Big5 that stand for a letter and a combining mark. -/
def big5Pair? : Nat → Option (List Char)
  | 1133 => some ['\xca', '\u0304']
  | 1135 => some ['\xca', '\u030c']
  | 1164 => some ['\xea', '\u0304']
  | 1166 => some ['\xea', '\u030c']
  | _ => none

def big5Step : Option UInt8 → UInt8 → List Char × Option UInt8
  | none, b =>
    if b < 0x80 then ([asciiChar b], none)
    else if b = 0x80 ∨ b = 0xFF then (bad, none)
    else ([], some b)
  | some lead, b =>
    let pointer := (lead.toNat - 0x81) * 157 + (b.toNat - if b < 0x7F then 0x40 else 0x62)
    let found :=
      if (0x40 ≤ b ∧ b ≤ 0x7E) ∨ (0xA1 ≤ b ∧ b ≤ 0xFE) then
        (big5Pair? pointer).or ((big5Index.char? pointer).map fun c => [c])
      else none
    match found with
    | some cs => (cs, none)
    | none => if b < 0x80 then (bad ++ [asciiChar b], none) else (bad, none)

def big5Decoder : Decoder (Option UInt8) where
  start := none
  step := big5Step
  finish
    | none => []
    | some _ => bad

/-- The characters of Big5 that are written at the last of their pointers. -/
def big5WrittenLast : List Char := ['═', '╞', '╡', '╪', '十', '卅']

def big5Bytes? (c : Char) : Option (List UInt8) :=
  if c.toNat < 0x80 then some [UInt8.ofNat c.toNat]
  else
    let pointer? :=
      if big5WrittenLast.contains c then big5Index.lastPointer? c
      else big5Index.pointerFrom? 5024 c
    pointer?.map (pointerBytes 157 0x3F 0x62)

end ContentSource.Charset
