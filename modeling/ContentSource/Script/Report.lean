import ContentSource.Script.Convert
import ContentSource.Text.Blank
import ContentSource.Text.Quoted

/-! # Reports of thrown values

What is said about a value that a script threw. An error is reported with its message, the line
where it arose, that line of the script itself, and its stack. The line is the number that the error
carries, or else the one in the first frame of its stack; any other value is only shown.
-/
namespace ContentSource.Script

open Text (Units)

def colonDigits? (cs : List Char) : Option (List Char × List Char) :=
  match cs with
  | ':' :: rest =>
    let digits := rest.takeWhile Text.isDecimalDigit
    if digits.isEmpty then none else some (digits, rest.dropWhile Text.isDecimalDigit)
  | _ => none

def endsFrame (cs : List Char) : Bool := cs.isEmpty || cs == [')']

def placeDigits? (cs : List Char) : Option (List Char) :=
  match colonDigits? cs with
  | none => none
  | some (line, rest) =>
    match colonDigits? rest with
    | some (_, rest') => if endsFrame rest' || endsFrame rest then some line else none
    | none => if endsFrame rest then some line else none

/-- The digits of the line in a frame: the first place that ends it counts. -/
def frameDigits? : List Char → Option (List Char)
  | [] => none
  | c :: cs => (placeDigits? (c :: cs)).or (frameDigits? cs)

def lineNumber? (digits : List Char) : Option Int :=
  if digits.all Char.isDigit then
    let n : Nat := digits.foldl (fun n c => n * 10 + (c.toNat - 0x30)) 0
    if n < 2147483648 then some n else none
  else none

/-- The lines of a text; a line break at the end starts no line. -/
def linesOf (s : String) : List String :=
  let rec go (line : List Char) : List Char → List (List Char)
    | [] => if line.isEmpty then [] else [line.reverse]
    | '\n' :: cs => (match line with
      | '\r' :: rest => rest.reverse
      | _ => line.reverse) :: go [] cs
    | c :: cs => go (c :: line) cs
  (go [] s.toList).map String.ofList

/-- The line of the innermost frame of a stack that names one. -/
def stackLine? (stack : String) : Option Int :=
  match (linesOf stack).findSome? fun frame => frameDigits? (Text.trimChars frame.toList) with
  | some digits => lineNumber? digits
  | none => none

/-- A line of a script, counted from one, without the blanks around it. -/
def sourceLine? (script : String) (line : Int) : Option String :=
  if line < 1 then none else ((linesOf script)[line.toNat - 1]?).map Text.trim

structure Caught where
  message : Option String
  line : Option Int
  stack : Option String
deriving DecidableEq, Repr

def Caught.report (script : String) (e : Caught) : String :=
  let message := e.message.getD "<no message>"
  let head :=
    match e.line.or (e.stack.bind stackLine?) with
    | none => message
    | some line =>
      "line " ++ toString line ++ ": " ++ message ++
        match sourceLine? script line with
        | some source => "\n\n" ++ source
        | none => ""
  head ++ "\n\n" ++ e.stack.getD "<no stack trace>"

def Caught.brief (e : Caught) : String :=
  "Error:" ++ (match e.message with
    | some m => " " ++ m
    | none => "") ++
  match e.stack with
  | some s => "\n" ++ s
  | none => ""

def generated : String := "Exception generated by quickjs: "

namespace Run

variable {σ : Type}

/-- A property as a text, if it is there and can be read as one. -/
def textProperty (r : Ref) (name : String) : Run σ (Option String) := do
  match ← attempt (getObject r (Key.ofString name)) with
  | .error _ => return none
  | .ok v =>
    if v.isMissing then return none
    else
      match ← attempt (toText v) with
      | .ok s => return s.toString?
      | .error _ => return none

def intProperty (r : Ref) (name : String) : Run σ (Option Int) := do
  match ← attempt (getObject r (Key.ofString name)) with
  | .error _ => return none
  | .ok v =>
    if v.isMissing then return none
    else
      match ← attempt (toNumber v) with
      | .ok n => return some n.toInt32
      | .error _ => return none

def caughtError (r : Ref) : Run σ Caught := do
  let stack ← textProperty r "stack"
  let message ← textProperty r "message"
  return ⟨message, ← intProperty r "lineNumber", stack⟩

def shownFloat (x : Float) : String :=
  if x.isNaN then "NaN"
  else if x.isInf then (if x > 0.0 then "inf" else "-inf")
  else
    let sign := if x < 0.0 || Number.isNegativeZero x then "-" else ""
    if x == 0.0 then sign ++ "0.0"
    else
      let b := Decimal.Binary.ofFloat x
      let (digits, p) := Decimal.shortest b.m b.q
      sign ++ String.ofList (plain digits p)
where
  /-- Digits with a point, and an exponent from `1e16` on and below `1e-5`. -/
  plain (digits : List Char) (p : Int) : List Char :=
    let k := digits.length
    if p > 16 ∨ p < -3 then
      let exponent := 'e' :: (toString (p - 1)).toList
      match digits with
      | [d] => d :: exponent
      | d :: rest => d :: '.' :: rest ++ exponent
      | [] => exponent
    else if p ≤ 0 then '0' :: '.' :: List.replicate (-p).toNat '0' ++ digits
    else if (k : Int) ≤ p then digits ++ List.replicate (p.toNat - k) '0' ++ ['.', '0']
    else digits.take p.toNat ++ '.' :: digits.drop p.toNat

def shown (v : Value) : Run σ String := do
  match v with
  | .undefined => return "Undefined\"undefined\""
  | .null => return "Null\"null\""
  | .bool b => return "Bool(" ++ (if b then "true" else "false") ++ ")"
  | .number (.int n) => return "Int(" ++ toString n ++ ")"
  | .number (.float x) => return "Float(" ++ shownFloat x ++ ")"
  | .string s =>
    match s.toString with
    | .ok t => return "String(Ok(" ++ Text.quoted t ++ "))"
    | .error n =>
      return "String(Err(Utf8(Utf8Error \x7b valid_up_to: " ++ toString n ++
        ", error_len: Some(1) \x7d)))"
  | _ => return (← kind v).name ++ "(0x)"

def isError (v : Value) : Run σ (Option Ref) := do
  match v with
  | .object r =>
    match (← object r).cls with
    | .error => return some r
    | _ => return none
  | _ => return none

def describe (script : String) (v : Value) : Run σ String := do
  match ← isError v with
  | some r => return (← caughtError r).report script
  | none => return generated ++ (← shown v)

def brief (v : Value) : Run σ String := do
  match ← isError v with
  | some r => return (← caughtError r).brief
  | none => return generated ++ (← shown v)

end Run

end ContentSource.Script
