import ContentSource.Charset.Decoder
import ContentSource.Charset.Index.Jis0208
import ContentSource.Charset.Index.Jis0212

/-! # EUC-JP, Shift_JIS and ISO-2022-JP

The three charsets share the index of JIS X 0208. The first two mark a pair of bytes by its lead
byte; the third switches between sets of characters by escape sequences and returns to ASCII at
the end of the text.
-/
namespace ContentSource.Charset

def isHalfKatakana (c : Char) : Bool := 0xFF61 ≤ c.toNat && c.toNat ≤ 0xFF9F

def halfKatakana (b : UInt8) : Char := Char.ofNat (0xFF61 + (b.toNat - 0xA1))

/-- What an EUC-JP character needs next: a trail byte after this lead, or after 0x8F the same from
the supplementary index. -/
inductive EucJpState where
  | ground
  | lead (b : UInt8)
  | supplement (b : UInt8)
deriving DecidableEq, Repr

def eucJpTrail (index : Index) (lead b : UInt8) : List Char × EucJpState :=
  let found :=
    if 0xA1 ≤ lead ∧ lead ≤ 0xFE ∧ 0xA1 ≤ b ∧ b ≤ 0xFE then
      index.char? ((lead.toNat - 0xA1) * 94 + (b.toNat - 0xA1))
    else none
  match found with
  | some c => ([c], .ground)
  | none => if b < 0x80 then (bad ++ [asciiChar b], .ground) else (bad, .ground)

def eucJpStep : EucJpState → UInt8 → List Char × EucJpState
  | .ground, b =>
    if b < 0x80 then ([asciiChar b], .ground)
    else if b = 0x8E ∨ b = 0x8F ∨ (0xA1 ≤ b ∧ b ≤ 0xFE) then ([], .lead b)
    else (bad, .ground)
  | .lead l, b =>
    if l = 0x8E ∧ 0xA1 ≤ b ∧ b ≤ 0xDF then ([halfKatakana b], .ground)
    else if l = 0x8F ∧ 0xA1 ≤ b ∧ b ≤ 0xFE then ([], .supplement b)
    else eucJpTrail jis0208Index l b
  | .supplement l, b => eucJpTrail jis0212Index l b

def eucJpDecoder : Decoder EucJpState where
  start := .ground
  step := eucJpStep
  finish
    | .ground => []
    | _ => bad

/-- The minus sign is written as its full-width form. -/
def jisForm (c : Char) : Char := if c = '\u2212' then '\uff0d' else c

def eucJpBytes? (c : Char) : Option (List UInt8) :=
  if c.toNat < 0x80 then some [UInt8.ofNat c.toNat]
  else if c = '¥' then some [0x5C]
  else if c = '‾' then some [0x7E]
  else if isHalfKatakana c then some [0x8E, UInt8.ofNat (c.toNat - 0xFF61 + 0xA1)]
  else
    (jis0208Index.pointer? (jisForm c)).map fun p =>
      [UInt8.ofNat (p / 94 + 0xA1), UInt8.ofNat (p % 94 + 0xA1)]

def shiftJisStep : Option UInt8 → UInt8 → List Char × Option UInt8
  | none, b =>
    if b ≤ 0x80 then ([asciiChar b], none)
    else if 0xA1 ≤ b ∧ b ≤ 0xDF then ([halfKatakana b], none)
    else if b = 0xA0 ∨ 0xFD ≤ b then (bad, none)
    else ([], some b)
  | some lead, b =>
    let pointer := (lead.toNat - if lead < 0xA0 then 0x81 else 0xC1) * 188 +
      (b.toNat - if b < 0x7F then 0x40 else 0x41)
    let found :=
      if 0x40 ≤ b ∧ b ≤ 0xFC ∧ b ≠ 0x7F then
        if 8836 ≤ pointer ∧ pointer ≤ 10715 then some (Char.ofNat (0xE000 + (pointer - 8836)))
        else jis0208Index.char? pointer
      else none
    match found with
    | some c => ([c], none)
    | none => if b < 0x80 then (bad ++ [asciiChar b], none) else (bad, none)

def shiftJisDecoder : Decoder (Option UInt8) where
  start := none
  step := shiftJisStep
  finish
    | none => []
    | some _ => bad

def shiftJisBytes? (c : Char) : Option (List UInt8) :=
  if c.toNat ≤ 0x80 then some [UInt8.ofNat c.toNat]
  else if c = '¥' then some [0x5C]
  else if c = '‾' then some [0x7E]
  else if isHalfKatakana c then some [UInt8.ofNat (c.toNat - 0xFF61 + 0xA1)]
  else
    (jis0208Index.pointerOutside? 8272 8836 (jisForm c)).map fun p =>
      let lead := p / 188
      let trail := p % 188
      [UInt8.ofNat (lead + if lead < 0x1F then 0x81 else 0xC1),
        UInt8.ofNat (trail + if trail < 0x3F then 0x40 else 0x41)]

inductive JpSet where
  | ascii | roman | katakana | jis
deriving DecidableEq, Repr

inductive Iso2022JpMode where
  | text
  | trail (lead : UInt8)
  | escape
  | escapeWith (b : UInt8)
deriving DecidableEq, Repr

structure Iso2022JpState where
  set : JpSet
  mode : Iso2022JpMode
  /-- An escape sequence has been read and nothing since. -/
  fresh : Bool
deriving DecidableEq, Repr

/-- The characters that no set of ISO-2022-JP may hold: two shifts and the escape itself. -/
def isJpControl (n : Nat) : Bool := n == 0x0E || n == 0x0F || n == 0x1B

def iso2022JpText (set : JpSet) (fresh : Bool) (b : UInt8) : List Char × Iso2022JpState :=
  let stay : Iso2022JpState := ⟨set, .text, false⟩
  if b = 0x1B then ([], ⟨set, .escape, fresh⟩)
  else
    match set with
    | .ascii =>
      if b < 0x80 && !isJpControl b.toNat then ([asciiChar b], stay) else (bad, stay)
    | .roman =>
      if b = 0x5C then (['¥'], stay)
      else if b = 0x7E then (['‾'], stay)
      else if b < 0x80 && !isJpControl b.toNat then ([asciiChar b], stay) else (bad, stay)
    | .katakana =>
      if 0x21 ≤ b ∧ b ≤ 0x5F then ([Char.ofNat (0xFF61 + (b.toNat - 0x21))], stay)
      else (bad, stay)
    | .jis =>
      if 0x21 ≤ b ∧ b ≤ 0x7E then ([], ⟨set, .trail b, false⟩) else (bad, stay)

/-- Reads in text mode or after a lead byte; escapes are left to `iso2022JpStep`. -/
def iso2022JpPlain (s : Iso2022JpState) (b : UInt8) : List Char × Iso2022JpState :=
  match s.mode with
  | .trail lead =>
    if b = 0x1B then (bad, ⟨s.set, .escape, s.fresh⟩)
    else
      let found :=
        if 0x21 ≤ b ∧ b ≤ 0x7E then
          jis0208Index.char? ((lead.toNat - 0x21) * 94 + (b.toNat - 0x21))
        else none
      (found.elim bad fun c => [c], ⟨s.set, .text, s.fresh⟩)
  | _ => iso2022JpText s.set s.fresh b

def escapeSet? (b c : UInt8) : Option JpSet :=
  if b = 0x28 ∧ c = 0x42 then some .ascii
  else if b = 0x28 ∧ c = 0x4A then some .roman
  else if b = 0x28 ∧ c = 0x49 then some .katakana
  else if b = 0x24 ∧ (c = 0x40 ∨ c = 0x42) then some .jis
  else none

def iso2022JpStep (s : Iso2022JpState) (b : UInt8) : List Char × Iso2022JpState :=
  match s.mode with
  | .escape =>
    if b = 0x24 ∨ b = 0x28 then ([], { s with mode := .escapeWith b })
    else
      let (cs, t) := iso2022JpText s.set false b
      (bad ++ cs, t)
  | .escapeWith e =>
    match escapeSet? e b with
    | some set => (if s.fresh then bad else [], ⟨set, .text, true⟩)
    | none =>
      let (cs, t) := iso2022JpText s.set false e
      let (ds, u) := iso2022JpPlain t b
      (bad ++ cs ++ ds, u)
  | _ => iso2022JpPlain s b

def iso2022JpFinish (s : Iso2022JpState) : List Char :=
  match s.mode with
  | .text => []
  | .trail _ | .escape => bad
  | .escapeWith e =>
    let (cs, t) := iso2022JpText s.set false e
    bad ++ cs ++ if t.mode = .text then [] else bad

def iso2022JpDecoder : Decoder Iso2022JpState where
  start := ⟨.ascii, .text, false⟩
  step := iso2022JpStep
  finish := iso2022JpFinish

def wideKatakana : String :=
  "。「」、・ヲァィゥェォャュョッーアイウエオカキクケコサシスセソタチツテトナニヌネノハヒフヘホマミムメモ" ++
  "ヤユヨラリルレロワン゛゜"

def iso2022JpForm (c : Char) : Char :=
  if isHalfKatakana c then (wideKatakana.toList[c.toNat - 0xFF61]?).getD c else jisForm c

def selectBytes : JpSet → List UInt8
  | .ascii => [0x1B, 0x28, 0x42]
  | .roman => [0x1B, 0x28, 0x4A]
  | .katakana => [0x1B, 0x28, 0x49]
  | .jis => [0x1B, 0x24, 0x42]

def switchTo (now next : JpSet) : List UInt8 := if now = next then [] else selectBytes next

/-- The bytes of one character, and the set that is selected after it. -/
def iso2022JpChar (set : JpSet) (c : Char) : List UInt8 × JpSet :=
  if isJpControl c.toNat then
    let next := if set = .jis then .ascii else set
    (switchTo set next ++ reference Text.Utf8.replacement, next)
  else if c.toNat < 0x80 then
    if set = .roman ∧ c ≠ '\\' ∧ c ≠ '~' then ([UInt8.ofNat c.toNat], .roman)
    else (switchTo set .ascii ++ [UInt8.ofNat c.toNat], .ascii)
  else if c = '¥' then (switchTo set .roman ++ [0x5C], .roman)
  else if c = '‾' then (switchTo set .roman ++ [0x7E], .roman)
  else
    match jis0208Index.pointer? (iso2022JpForm c) with
    | some p =>
      if p < 8836 then
        (switchTo set .jis ++ [UInt8.ofNat (p / 94 + 0x21), UInt8.ofNat (p % 94 + 0x21)], .jis)
      else
        let next := if set = .jis then .ascii else set
        (switchTo set next ++ reference c, next)
    | none =>
      let next := if set = .jis then .ascii else set
      (switchTo set next ++ reference c, next)

def iso2022JpChars : JpSet → List Char → List UInt8
  | set, [] => switchTo set .ascii
  | set, c :: cs => (iso2022JpChar set c).1 ++ iso2022JpChars (iso2022JpChar set c).2 cs

end ContentSource.Charset
