import ContentSource.Text.Utf8

/-! # Decoders

A decoder reads one byte at a time: it keeps a state, and each byte adds some characters to the
text. At the end of the bytes a state may still owe one. An encoder does the same from characters
to bytes, and may find a character that its charset has no bytes for; such a character is written
as a numeric character reference.
-/
namespace ContentSource.Charset

structure Decoder (σ : Type) where
  start : σ
  step : σ → UInt8 → List Char × σ
  finish : σ → List Char

namespace Decoder

def runFrom {σ : Type} (d : Decoder σ) : σ → List UInt8 → List Char
  | s, [] => d.finish s
  | s, b :: bs => (d.step s b).1 ++ d.runFrom (d.step s b).2 bs

def run {σ : Type} (d : Decoder σ) (bs : List UInt8) : List Char := d.runFrom d.start bs

/-- If each byte of a list, read in state `s`, gives one character and leads back to `s`, then so
does the whole list. -/
theorem runFrom_map {σ : Type} (d : Decoder σ) (s : σ) (f : UInt8 → Char) (bs : List UInt8)
    (h : ∀ b ∈ bs, d.step s b = ([f b], s)) : d.runFrom s bs = bs.map f ++ d.finish s := by
  induction bs with
  | nil => simp [runFrom]
  | cons b bs ih =>
    simp only [List.mem_cons, forall_eq_or_imp] at h
    simp [runFrom, h.1, ih h.2]

end Decoder

def bad : List Char := [Text.Utf8.replacement]

def asciiChar (b : UInt8) : Char := Char.ofNat b.toNat

def asciiBytes (s : String) : List UInt8 := s.toList.map fun c => UInt8.ofNat c.toNat

/-- A decimal character reference such as the one written for a missing character. -/
def reference (c : Char) : List UInt8 :=
  asciiBytes "&#" ++ asciiBytes (toString c.toNat) ++ asciiBytes ";"

/-- Two bytes that stand for a pointer: `width` trail bytes to each lead byte, the trail bytes
continuing `gap` further on from the `low`-th. -/
def pointerBytes (width low gap : Nat) (pointer : Nat) : List UInt8 :=
  let trail := pointer % width
  [UInt8.ofNat (pointer / width + 0x81),
    UInt8.ofNat (trail + if trail < low then 0x40 else gap)]

end ContentSource.Charset
