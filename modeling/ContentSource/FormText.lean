import ContentSource.Charset.Codec

/-! # Form text

Form text is the escaping of web forms: letters, digits and `*-._` stand for themselves, a space
is a plus sign, and every other byte is a percent sign with two hexadecimal digits. What is
escaped are the bytes of a text in some charset. Reading accepts digits in either case and leaves
a percent sign that no two digits follow as it is.
-/
namespace ContentSource.FormText

def isPlain (b : UInt8) : Bool :=
  (0x30 ≤ b && b ≤ 0x39) || (0x41 ≤ b && b ≤ 0x5A) || (0x61 ≤ b && b ≤ 0x7A) ||
    b == 0x2A || b == 0x2D || b == 0x2E || b == 0x5F

def hexDigit (n : Nat) : Char := if n < 10 then Char.ofNat (0x30 + n) else Char.ofNat (0x37 + n)

def escapeByte (b : UInt8) : List Char :=
  if isPlain b then [Char.ofNat b.toNat]
  else if b = 0x20 then ['+']
  else ['%', hexDigit (b.toNat / 16), hexDigit (b.toNat % 16)]

def escapeBytes (bs : List UInt8) : List Char := bs.flatMap escapeByte

def hexValue? (b : UInt8) : Option Nat :=
  if 0x30 ≤ b ∧ b ≤ 0x39 then some (b.toNat - 0x30)
  else if 0x41 ≤ b ∧ b ≤ 0x46 then some (b.toNat - 0x37)
  else if 0x61 ≤ b ∧ b ≤ 0x66 then some (b.toNat - 0x57)
  else none

def plusToSpace (b : UInt8) : UInt8 := if b = 0x2B then 0x20 else b

def unescape : List UInt8 → List UInt8
  | 0x25 :: a :: b :: rest =>
    match hexValue? a, hexValue? b with
    | some x, some y => UInt8.ofNat (x * 16 + y) :: unescape rest
    | _, _ => 0x25 :: unescape (a :: b :: rest)
  | b :: rest => b :: unescape rest
  | [] => []

def unescapeBytes (bs : List UInt8) : List UInt8 := unescape (bs.map plusToSpace)

/-- The form text of `text` in `charset`. -/
def encode (charset : Charset) (text : String) : String :=
  String.ofList (escapeBytes (charset.encode text))

/-- The text that a form text stands for in `charset`. -/
def decode (charset : Charset) (text : String) : String :=
  charset.decode (unescapeBytes (Text.Utf8.encode text))

end ContentSource.FormText
