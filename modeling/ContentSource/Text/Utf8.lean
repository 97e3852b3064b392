/-! # UTF-8

A character is written in one to four bytes. Reading is lossy: each longest run of bytes that
begins a character without finishing it becomes one replacement character, and reading goes on at
the byte that did not fit. Writing and then reading gives the text back.
-/
namespace ContentSource.Text.Utf8

def replacement : Char := '\uFFFD'

def encodeChar (c : Char) : List UInt8 :=
  let n := c.toNat
  if n < 0x80 then [UInt8.ofNat n]
  else if n < 0x800 then [UInt8.ofNat (0xC0 + n / 64), UInt8.ofNat (0x80 + n % 64)]
  else if n < 0x10000 then
    [UInt8.ofNat (0xE0 + n / 4096), UInt8.ofNat (0x80 + n / 64 % 64), UInt8.ofNat (0x80 + n % 64)]
  else
    [UInt8.ofNat (0xF0 + n / 262144), UInt8.ofNat (0x80 + n / 4096 % 64),
      UInt8.ofNat (0x80 + n / 64 % 64), UInt8.ofNat (0x80 + n % 64)]

def encodeChars (cs : List Char) : List UInt8 := cs.flatMap encodeChar

def encode (s : String) : List UInt8 := encodeChars s.toList

/-- A character begun: its bits so far, the bytes still missing, and the range of the next one. -/
structure Pending where
  bits : Nat
  missing : Nat
  low : Nat
  high : Nat
deriving Repr, DecidableEq

inductive Lead where
  | done (c : Char)
  | more (p : Pending)
  | bad
deriving Repr, DecidableEq

def lead (b : UInt8) : Lead :=
  let n := b.toNat
  if n < 0x80 then .done (Char.ofNat n)
  else if n < 0xC2 then .bad
  else if n < 0xE0 then .more ⟨n - 0xC0, 1, 0x80, 0xBF⟩
  else if n < 0xF0 then
    .more ⟨n - 0xE0, 2, if n = 0xE0 then 0xA0 else 0x80, if n = 0xED then 0x9F else 0xBF⟩
  else if n < 0xF5 then
    .more ⟨n - 0xF0, 3, if n = 0xF0 then 0x90 else 0x80, if n = 0xF4 then 0x8F else 0xBF⟩
  else .bad

/-- Reads on from a character that may have been begun. -/
def decodeFrom : Option Pending → List UInt8 → List Char
  | none, [] => []
  | some _, [] => [replacement]
  | none, b :: bs =>
    match lead b with
    | .done c => c :: decodeFrom none bs
    | .more p => decodeFrom (some p) bs
    | .bad => replacement :: decodeFrom none bs
  | some p, b :: bs =>
    if p.low ≤ b.toNat ∧ b.toNat ≤ p.high then
      let bits := p.bits * 64 + (b.toNat - 0x80)
      if p.missing ≤ 1 then Char.ofNat bits :: decodeFrom none bs
      else decodeFrom (some ⟨bits, p.missing - 1, 0x80, 0xBF⟩) bs
    else
      replacement ::
        match lead b with
        | .done c => c :: decodeFrom none bs
        | .more q => decodeFrom (some q) bs
        | .bad => replacement :: decodeFrom none bs

def decodeBytes (bs : List UInt8) : List Char := decodeFrom none bs

def decode (bs : List UInt8) : String := String.ofList (decodeBytes bs)

end ContentSource.Text.Utf8
