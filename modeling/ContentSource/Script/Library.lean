import ContentSource.Script.Library.Function
import ContentSource.Script.Library.HostCall
import ContentSource.Script.Library.Number
import ContentSource.Script.Library.Object
import ContentSource.Script.Library.String
import ContentSource.Script.Library.Uri

/-! # Built-in functions

What each built-in function does when it is called on something with arguments, or constructs
something.
-/
namespace ContentSource.Script

open Text (Units)

def jsonFault (text : Units) (left : Nat) : String :=
  let before := (text.extract 0 (text.size - left)).toArray.toList
  let line := (before.filter (· == 0x0A)).length + 1
  let column := (before.reverse.takeWhile (· != 0x0A)).length + 1
  "Unexpected token in JSON at position " ++ toString before.length ++ " (line " ++
    toString line ++ " column " ++ toString column ++ ")"

namespace Run

variable {σ : Type}

/-- An error with its message and perhaps its cause; an aggregate takes the errors in it first. -/
def newErrorOf (k : ErrorKind) (args : List Value) : Run σ Value := do
  let own := if k = .aggregateError then args.drop 1 else args
  let message ←
    if (argument own 0).isUndefined then pure none
    else do pure (some (Value.string (← toText (argument own 0))))
  let r ← newError (errorProto k) message (stackText ((← machine).frames.drop 1))
  match argument own 1 with
  | .object options =>
    if ← hasProperty options (Key.ofString "cause") then
      putOwn r (Key.ofString "cause") (.hidden (← getObject options (Key.ofString "cause")))
  | _ => pure ()
  if k = .aggregateError then
    putOwn r (Key.ofString "errors") (.hidden (← newArray (← valuesOf (argument args 0))))
  return .object r

def errorText (this : Value) : Run σ Value := do
  match this with
  | .object r =>
    let part (name default : String) : Run σ Units := do
      let v ← getObject r (Key.ofString name)
      if v.isUndefined then return Units.ofString default else toText v
    let name ← part "name" "Error"
    let message ← part "message" ""
    if name.size = 0 then return .string message
    else if message.size = 0 then return .string name
    else return .string (name ++ ": " ++ message)
  | _ => typeError "not an object"

/-- Puts every value of a tree through a function, innermost first. -/
def revived (f : Value) : Nat → Value → Key → Run σ Value
  | 0, _, _ => fail .rangeError "Maximum call stack size exceeded"
  | depth + 1, holder, k => do
    let v ← getValue holder k
    match v with
    | .object r =>
      (← enumerableNames r).forM fun name => do
        let x ← revived f depth v (.name name)
        if x.isUndefined then deleteKey r (.name name)
        else putOwn r (.name name) (.ofValue x)
    | _ => pure ()
    call f holder [keyValue k, v]

def parseJson (args : List Value) : Run σ Value := do
  let text ← toText (argument args 0)
  match Json.Tree.read text with
  | .error left => fail .syntaxError (jsonFault text left.length)
  | .ok tree =>
    let v ← ofTree tree
    if ← isCallable (argument args 1) then
      let holder ← newObject
      setNamed holder "" v
      revived (argument args 1) maxJsonDepth (.object holder) (Key.ofString "")
    else return v

def stringify (args : List Value) : Run σ Value := do
  let layout ← layoutOf (argument args 1) (argument args 2)
  match ← writeJson layout (argument args 0) with
  | some text =>
    checkMemory text.size
    return .string text
  | none => return .undefined

end Run

open Run in
def Builtin.run {σ : Type} (b : Builtin) (constructed : Bool) (this : Value) (args : List Value) :
    Run σ Value := do
  match b with
  | .print => Run.print args
  | .require => Run.require args
  | .object f => f.run this args
  | .function f => f.run this args
  | .array f => f.run this args
  | .string .make =>
    let v ← StringFn.run .make this args
    if constructed then
      match v, args with
      | _, [.symbol _] => typeError "cannot convert symbol to string"
      | v, _ => return .object (← toObject v)
    else return v
  | .string f => f.run this args
  | .number f =>
    let v ← f.run this args
    if constructed then return .object (← toObject v) else return v
  | .math f => f.run args
  | .primitive f =>
    if constructed && f != .boolean then typeError "not a constructor"
    let v ← f.run this args
    if constructed then return .object (← toObject v) else return v
  | .promise f => f.run constructed args
  | .uri f => f.run args
  | .error k => newErrorOf k args
  | .errorText => Run.errorText this
  | .stringify => Run.stringify args
  | .parse => parseJson args
  | .itself => return this

end ContentSource.Script
