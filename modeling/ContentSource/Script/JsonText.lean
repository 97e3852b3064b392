import ContentSource.Json.Printer
import ContentSource.Script.JsonTree
import ContentSource.Script.Convert

/-! # JSON texts of values

Writing a value as JSON asks its `toJSON` first and then lists what can be enumerated. A value that
leads back to itself cannot be written. Functions and `undefined` are left out of objects and stand
as `null` in arrays. A host gets the arguments of its functions through such a text.
-/
namespace ContentSource.Script

open Text (Units)

structure JsonLayout where
  indent : Units
  /-- The only members to be written, if they are chosen. -/
  names : Option (List Units)
  replacer : Option Value

def JsonLayout.compact : JsonLayout := ⟨Units.empty, none, none⟩

def quotedUnit : Char ⊕ UInt16 → List Char
  | .inr u => '\\' :: 'u' :: Json.hexFour u.toNat
  | .inl c => Json.quotedChar c

def quotedText (s : Units) : Units :=
  Units.ofChars
    ('"' :: (Text.charsOfUnits s.toArray.toList).flatMap quotedUnit ++ ['"'])

namespace Run

variable {σ : Type}

def joinUnits (separator : Units) : List Units → Units
  | [] => Units.empty
  | [u] => u
  | u :: rest => u ++ separator ++ joinUnits separator rest

def bracketed (l : JsonLayout) (opening closing margin : Units) (parts : List Units) : Units :=
  if parts.isEmpty then opening ++ closing
  else if l.indent.size = 0 then opening ++ joinUnits "," parts ++ closing
  else
    let inner := "\n" ++ margin ++ l.indent
    opening ++ inner ++ joinUnits ("," ++ inner) parts ++ "\n" ++ margin ++ closing

/-- A value after its own `toJSON` and the replacer have seen it. -/
def prepared (l : JsonLayout) (holder v : Value) (k : Key) : Run σ Value := do
  let name : Value :=
    match k with
    | .name s => .string s
    | .symbol id => .symbol id
  let v ←
    match v with
    | .object _ | .bigInt _ =>
      let f ← getNamed v "toJSON"
      if ← isCallable f then call f v [name] else pure v
    | _ => pure v
  let v ←
    match l.replacer with
    | some f => call f holder [name, v]
    | none => pure v
  match v with
  | .object r =>
    match (← object r).cls with
    | .boxed (.number _) => return .number (← toNumber v)
    | .boxed (.string _) => return .string (← toText v)
    | .boxed (.bool b) => return .bool b
    | .boxed (.bigInt n) => return .bigInt n
    | _ => return v
  | _ => return v

/-- Writes the value of a property, of at most so many levels; `none` if it cannot stand in JSON. -/
def writeProperty (l : JsonLayout) :
    Nat → List Ref → Units → Value → Key → Value → Run σ (Option Units)
  | 0, _, _, _, _, _ => fail .rangeError "Maximum call stack size exceeded"
  | depth + 1, above, margin, holder, k, v => do
    match ← prepared l holder v k with
    | .null => return some "null"
    | .bool b => return some (Units.ofString (if b then "true" else "false"))
    | .string s => return some (quotedText s)
    | .number n => return some (Units.ofString (if n.toFloat.isFinite then n.text else "null"))
    | .bigInt _ => typeError "BigInt are forbidden in JSON.stringify"
    | .undefined | .symbol _ => return none
    | .object r =>
      if ← isCallable (.object r) then return none
      if above.contains r then typeError "circular reference"
      let value : Value := .object r
      match (← object r).cls with
      | .array =>
        let n ← toLength (← getNamed value "length")
        let parts ← (List.range n).mapM fun i => do
          let part ← writeProperty l depth (r :: above) (margin ++ l.indent) value (Key.ofNat i)
            (← getValue value (Key.ofNat i))
          return part.getD "null"
        return some (bracketed l "[" "]" margin parts)
      | _ =>
        let names ←
          match l.names with
          | some names => pure names
          | none => enumerableNames r
        let parts ← names.filterMapM fun name => do
          let part ← writeProperty l depth (r :: above) (margin ++ l.indent) value (.name name)
            (← getValue value (.name name))
          let separator : Units := if l.indent.size = 0 then ":" else ": "
          return part.map fun p => quotedText name ++ separator ++ p
        return some (bracketed l "\x7b" "\x7d" margin parts)

def maxJsonDepth : Nat := 1000

def writeJson (l : JsonLayout) (v : Value) : Run σ (Option Units) := do
  let holder ← newObject
  setNamed holder "" v
  writeProperty l maxJsonDepth [] Units.empty (.object holder) (Key.ofString "") v

def chosenNames (r : Ref) : Run σ (List Units) := do
  let list : Value := .object r
  let n ← toLength (← getNamed list "length")
  let names ← (List.range n).filterMapM fun i => do
    match ← getValue list (Key.ofNat i) with
    | .string s => return some s
    | .number k => return some (Units.ofString k.text)
    | .object q =>
      match (← object q).cls with
      | .boxed (.string _) | .boxed (.number _) => return some (← toText (.object q))
      | _ => return none
    | _ => return none
  return names.eraseDups

def layoutOf (replacer space : Value) : Run σ JsonLayout := do
  let callable ← isCallable replacer
  let names ←
    match replacer with
    | .object r =>
      match (← object r).cls with
      | .array => pure (some (← chosenNames r))
      | _ => pure none
    | _ => pure none
  let indent : Units ←
    match ← prepared .compact .undefined space (Key.ofString "") with
    | .number n => pure (Units.ofString (String.ofList (List.replicate (min (Number.truncate
        (if n.toFloat.isFinite then n.toFloat else 0.0)).toNat 10) ' ')))
    | .string s => pure (s.extract 0 10)
    | _ => pure Units.empty
  return ⟨indent, names, if callable then some replacer else none⟩

mutual

/-- The value that a JSON text stands for. Its numbers are floating-point numbers. -/
def ofTree : Json.Tree → Run σ Value
  | .null => return .null
  | .bool b => return .bool b
  | .string s => return .string s
  | .number cs =>
    match cs with
    | '-' :: body => return .number (.float (-(decimalNumber body).1.toFloat))
    | _ => return .number (.float (decimalNumber cs).1.toFloat)
  | .array items => do newArray (← ofTrees items)
  | .object members => do
    let r ← newObject
    ofMembers r members
    return .object r

def ofTrees : List Json.Tree → Run σ (List Value)
  | [] => return []
  | t :: ts => do return (← ofTree t) :: (← ofTrees ts)

def ofMembers (r : Ref) : List (Units × Json.Tree) → Run σ Unit
  | [] => return
  | (k, t) :: rest => do
    putOwn r (.name k) (.ofValue (← ofTree t))
    ofMembers r rest

end

mutual

def ofJson : Json → Run σ Value
  | .null => return .null
  | .bool b => return .bool b
  | .int n => return .number (.float (Float.ofInt n))
  | .float x => return .number (.float x)
  | .string s => return .text s
  | .array items => do newArray (← ofJsons items)
  | .object members => do
    let r ← newObject
    ofJsonMembers r members
    return .object r

def ofJsons : List Json → Run σ (List Value)
  | [] => return []
  | t :: ts => do return (← ofJson t) :: (← ofJsons ts)

def ofJsonMembers (r : Ref) : List (String × Json) → Run σ Unit
  | [] => return
  | (k, t) :: rest => do
    putOwn r (Key.ofString k) (.ofValue (← ofJson t))
    ofJsonMembers r rest

end

/-- The value that a host gets from a script; what cannot stand in JSON becomes `null`. -/
def toJson (v : Value) : Run σ Json := do
  match ← writeJson .compact v with
  | none => return .null
  | some text =>
    match Json.Tree.read text with
    | .error _ => return .null
    | .ok t =>
      match t.toJson? with
      | some j => return j
      | none => fail .error "argument is not JSON: unexpected end of hex escape"

end Run

end ContentSource.Script
