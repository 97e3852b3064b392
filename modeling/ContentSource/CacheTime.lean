import ContentSource.Text.DecimalDigit
import ContentSource.Text.Numeral

/-! # Cache times

A node states how long its content may be kept as a count with a unit: hours, days, weeks, months
of 30 days or years of 365 days. Without a statement the time is one day; a count without a unit
means that nothing is kept. A time must fit 32 bits both as a count and in hours.
-/
namespace ContentSource.CacheTime

inductive Refusal where
  | malformed
  | unknownUnit (unit : Char)
  | outOfRange
deriving DecidableEq, Repr

structure Span where
  seconds : UInt64
deriving DecidableEq, Repr

namespace Span

def zero : Span := ⟨0⟩

def hour : Span := ⟨3600⟩

def day : Span := ⟨86400⟩

def times? (s : Span) (n : UInt32) : Option Span :=
  if s.seconds.toNat * n.toNat < 18446744073709551616 then some ⟨s.seconds * n.toUInt64⟩ else none

/-- The length in milliseconds; a number that does not fit 64 bits is cut off. -/
def millis (s : Span) : UInt64 := UInt64.ofNat (s.seconds.toNat * 1000)

end Span

/-- The time for a node that states none, in milliseconds. -/
def default : Nat := Span.day.millis.toNat

def units : List Char := ['h', 'd', 'w', 'm', 'y']

def unitHours? : Char → Option UInt32
  | 'h' => some 1
  | 'd' => some 24
  | 'w' => some (24 * 7)
  | 'm' => some (24 * 30)
  | 'y' => some (24 * 365)
  | _ => none

/-- A time as it is written: a count in decimal digits of any script, and perhaps a unit. -/
def split? (cs : List Char) : Option (List Char × Option Char) :=
  match cs.takeWhile Text.isDecimalDigit, cs.dropWhile Text.isDecimalDigit with
  | [], _ => none
  | digits, [] => some (digits, none)
  | digits, [u] => if units.contains u then some (digits, some u) else none
  | _, _ => none

/-- The value of a numeral of ASCII digits below 2^32. -/
def count? (cs : List Char) : Option UInt32 :=
  (Text.readDigits? cs).bind fun n => if n < 4294967296 then some (UInt32.ofNat n) else none

def mul? (a b : UInt32) : Option UInt32 :=
  if a.toNat * b.toNat < 4294967296 then some (a * b) else none

def read (text : String) : Except Refusal Span :=
  match split? text.toList with
  | none => .error .malformed
  | some (_, none) => .ok .zero
  | some (digits, some u) =>
    match unitHours? u with
    | none => .error (.unknownUnit u)
    | some hours =>
      match ((count? digits).bind fun n => mul? n hours).bind Span.hour.times? with
      | none => .error .outOfRange
      | some t => .ok t

def parse (text : String) : Except Refusal Nat := (read text).map fun t => t.millis.toNat

def ofAttribute : Option String → Except Refusal Nat
  | none => .ok default
  | some text => parse text

def Refusal.message (text : String) : Refusal → String
  | .malformed => "malformed 'cache' value '" ++ text ++ "'"
  | .unknownUnit u => "unknown 'cache' unit '" ++ String.singleton u ++ "' in '" ++ text ++ "'"
  | .outOfRange => "'cache' value '" ++ text ++ "' is out of range"

end ContentSource.CacheTime
