import ContentSource.Json.Basic
import ContentSource.Script.Token

/-! # JSON texts

A JSON text as it is written: numbers keep their digits, members their order, and strings may hold
halves of characters. A script makes its objects from such a tree, and a host reads its values off
it.
-/
namespace ContentSource.Json

open Text (Units)

inductive Tree where
  | null
  | bool (b : Bool)
  | number (digits : List Char)
  | string (s : Units)
  | array (items : List Tree)
  | object (members : List (Units × Tree))
deriving Inhabited

namespace Tree

abbrev Rest := List UInt16

/-- Reads something off a text, or gives what is left where the reading fails. -/
abbrev Reader (α : Type) := Rest → Except Rest (α × Rest)

def unit (c : Char) : UInt16 := UInt16.ofNat c.toNat

def isSpace (u : UInt16) : Bool := u == 0x20 || u == 0x09 || u == 0x0A || u == 0x0D

def skip (r : Rest) : Rest := r.dropWhile isSpace

def isDigit (u : UInt16) : Bool := 0x30 ≤ u && u ≤ 0x39

def chars (us : List UInt16) : List Char := us.map fun u => Char.ofNat u.toNat

def fourDigits? (r : Rest) : Option UInt16 :=
  let digits := chars (r.take 4)
  if digits.length = 4 then (Script.hexValue? digits).map UInt16.ofNat else none

def stringFrom (done : List UInt16) : Nat → Reader Units
  | 0, r => .error r
  | _, [] => .error []
  | n + 1, u :: r =>
    if u = unit '"' then .ok (⟨done.reverse.toArray⟩, r)
    else if u < 0x20 then .error (u :: r)
    else if u ≠ unit '\\' then stringFrom (u :: done) n r
    else
      match r with
      | [] => .error []
      | e :: r' =>
        if e = unit '"' ∨ e = unit '\\' ∨ e = unit '/' then stringFrom (e :: done) n r'
        else if e = unit 'b' then stringFrom (0x08 :: done) n r'
        else if e = unit 'f' then stringFrom (0x0C :: done) n r'
        else if e = unit 'n' then stringFrom (0x0A :: done) n r'
        else if e = unit 'r' then stringFrom (0x0D :: done) n r'
        else if e = unit 't' then stringFrom (0x09 :: done) n r'
        else if e = unit 'u' then
          match fourDigits? r' with
          | some v => stringFrom (v :: done) n (r'.drop 4)
          | none => .error r
        else .error r

def digits : Reader (List UInt16) := fun r =>
  match r.takeWhile isDigit with
  | [] => .error r
  | ds => .ok (ds, r.dropWhile isDigit)

def numberFrom : Reader Tree := fun r => do
  let (sign, r) := if r.head? == some (unit '-') then ([unit '-'], r.drop 1) else ([], r)
  let (whole, r) ← if r.head? == some (unit '0') then .ok ([unit '0'], r.drop 1) else digits r
  let (fraction, r) ←
    if r.head? == some (unit '.') then do
      let (ds, r) ← digits (r.drop 1)
      .ok (unit '.' :: ds, r)
    else .ok ([], r)
  let (exponent, r) ←
    if r.head? == some (unit 'e') || r.head? == some (unit 'E') then do
      let r := r.drop 1
      let (sign, r) :=
        if r.head? == some (unit '-') then ([unit '-'], r.drop 1)
        else if r.head? == some (unit '+') then ([], r.drop 1)
        else ([], r)
      let (ds, r) ← digits r
      .ok (unit 'e' :: sign ++ ds, r)
    else .ok ([], r)
  .ok (.number (chars (sign ++ whole ++ fraction ++ exponent)), r)

def word (text : String) (value : Tree) : Reader Tree := fun r =>
  let us := text.toList.map unit
  if us.isPrefixOf r then .ok (value, r.drop us.length) else .error r

mutual

def valueFrom : Nat → Reader Tree
  | 0, r => .error r
  | n + 1, r =>
    match skip r with
    | [] => .error []
    | u :: rest =>
      if u = unit '"' then (stringFrom [] (n + 1) rest).map fun p => (.string p.1, p.2)
      else if u = unit '[' then
        match skip rest with
        | v :: after => if v = unit ']' then .ok (.array [], after) else itemsFrom n [] (v :: after)
        | [] => .error []
      else if u = unit '\x7b' then
        match skip rest with
        | v :: after =>
          if v = unit '\x7d' then .ok (.object [], after) else membersFrom n [] (v :: after)
        | [] => .error []
      else if u = unit 't' then word "true" (.bool true) (u :: rest)
      else if u = unit 'f' then word "false" (.bool false) (u :: rest)
      else if u = unit 'n' then word "null" .null (u :: rest)
      else numberFrom (u :: rest)

def itemsFrom : Nat → List Tree → Reader Tree
  | 0, _, r => .error r
  | n + 1, done, r =>
    match valueFrom n r with
    | .error e => .error e
    | .ok (v, r) =>
      match skip r with
      | u :: rest =>
        if u = unit ',' then itemsFrom n (v :: done) rest
        else if u = unit ']' then .ok (.array (v :: done).reverse, rest)
        else .error (u :: rest)
      | [] => .error []

def membersFrom : Nat → List (Units × Tree) → Reader Tree
  | 0, _, r => .error r
  | n + 1, done, r =>
    match skip r with
    | q :: afterQuote =>
      if q ≠ unit '"' then .error (q :: afterQuote)
      else
        match stringFrom [] (n + 1) afterQuote with
        | .error e => .error e
        | .ok (name, r) =>
          match skip r with
          | c :: afterColon =>
            if c ≠ unit ':' then .error (c :: afterColon)
            else
              match valueFrom n afterColon with
              | .error e => .error e
              | .ok (v, r) =>
                match skip r with
                | u :: rest =>
                  if u = unit ',' then membersFrom n ((name, v) :: done) rest
                  else if u = unit '\x7d' then .ok (.object ((name, v) :: done).reverse, rest)
                  else .error (u :: rest)
                | [] => .error []
          | [] => .error []
    | [] => .error []

end

def read (text : Units) : Except Rest Tree :=
  let all := text.toArray.toList
  match valueFrom (2 * all.length + 2) all with
  | .error e => .error e
  | .ok (v, r) => if (skip r).isEmpty then .ok v else .error (skip r)

def hostNumber (cs : List Char) : Json :=
  let (negative, body) :=
    match cs with
    | '-' :: rest => (true, rest)
    | rest => (false, rest)
  if body.all Char.isDigit then
    let n : Int := Script.digitsValue 10 body
    Json.ofInt (if negative then -n else n)
  else
    let x := (Script.decimalNumber body).1.toFloat
    .float (if negative then -x else x)

mutual

/-- The value that a host reads, if every string in it is a text. -/
def toJson? : Tree → Option Json
  | null => some .null
  | bool b => some (.bool b)
  | number cs => some (hostNumber cs)
  | string s => s.toString?.map .string
  | array items => (listJson? items).map .array
  | object members => (membersJson? members).map .mkObject

def listJson? : List Tree → Option (List Json)
  | [] => some []
  | t :: ts =>
    match toJson? t, listJson? ts with
    | some v, some vs => some (v :: vs)
    | _, _ => none

def membersJson? : List (Units × Tree) → Option (List (String × Json))
  | [] => some []
  | (k, t) :: ts =>
    match k.toString?, toJson? t, membersJson? ts with
    | some k, some v, some vs => some ((k, v) :: vs)
    | _, _, _ => none

end

end Tree

end ContentSource.Json
