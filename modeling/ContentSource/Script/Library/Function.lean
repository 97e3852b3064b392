import ContentSource.Script.Library.Array
import ContentSource.Script.Reader

/-! # Functions of functions

Calling a function with a given `this`, binding one, and making one from text. What waits for a
promise never goes on, so the methods of promises give promises and call nothing back.
-/
namespace ContentSource.Script

open Text (Units)

namespace Run

variable {σ : Type}

def throwSyntaxError {α : Type} (e : SyntaxError) : Run σ α := do
  let below := stackText (← machine).frames
  let here :=
    "    at eval_script:" ++ toString e.place.line ++ ":" ++ toString e.place.column ++ "\n"
  let r ← newError (errorProto .syntaxError) (some (.text e.message)) (here ++ below)
  throwValue (.object r)

def constructs (f : Value) : Run σ Bool := do
  match f with
  | .object r =>
    match (← object r).cls with
    | .function _ b => return b
    | _ => return false
  | _ => return false

def nameOf (f : Value) : Run σ String := do
  match ← getNamed f "name" with
  | .string s => return s.lossy
  | _ => return ""

/-- Whether written code makes objects: plain functions do that. -/
def canConstruct (code : Code) : Bool :=
  match code.kind with
  | .plain | .unnamed => !code.isAsync
  | _ => false

def closure (code : Code) (scope : Nat) : Run σ Value := do
  let r ← newFunction (.closure code scope) (canConstruct code) code.name code.arity
  if canConstruct code then
    let proto ← newObject
    setObject proto ((← object proto).put (Key.ofString "constructor") (.hidden (.object r)))
    setObject r ((← object r).put (Key.ofString "prototype")
      ⟨.data (.object proto) true, false, false⟩)
  return .object r

def writtenForm (f : Value) : Run σ String := do
  let hidden := "function " ++ (← nameOf f) ++ "() \x7b\n    [native code]\n\x7d"
  match f with
  | .object r =>
    match (← object r).cls with
    | .function (.closure code _) _ => return code.origin.text
    | _ => return hidden
  | _ => return hidden

def boundFunction (f : Value) (args : List Value) : Run σ Value := do
  let name ← nameOf f
  let arity ← toInteger (← getNamed f "length")
  let r ← newFunction (.bound f (argument args 0) (args.drop 1)) (← constructs f)
    ("bound " ++ name) (arity.toNat - (args.drop 1).length)
  return .object r

/-- A function from texts: its parameters and, last, its body. -/
def functionOfText (args : List Value) : Run σ Value := do
  let texts ← args.mapM toText
  let params := ",".intercalate (texts.dropLast.map Units.lossy)
  let body := (texts.getLast?.map Units.lossy).getD ""
  match Program.read ("function anonymous(" ++ params ++ "\n) \x7b\n" ++ body ++ "\n\x7d") with
  | .error e => throwSyntaxError e
  | .ok program =>
    match blockFunctions program.body with
    | [code] => closure code 0
    | _ => fail .syntaxError "unexpected token"

def newPromise : Run σ Value := do
  return .object (← allocate ⟨some promiseProto, .promise, #[], true⟩)

end Run

open Run in
def FunctionFn.run {σ : Type} (f : FunctionFn) (this : Value) (args : List Value) :
    Run σ Value := do
  match f with
  | .make => functionOfText args
  | .call => Run.call this (argument args 0) (args.drop 1)
  | .apply =>
    needFunction this
    let list := argument args 1
    let list ← if list.isMissing then pure [] else elements list
    Run.call this (argument args 0) list
  | .bind =>
    needFunction this
    boundFunction this args
  | .toText =>
    needFunction this
    return .text (← writtenForm this)

open Run in
def PromiseFn.run {σ : Type} (f : PromiseFn) (constructed : Bool) (args : List Value) :
    Run σ Value := do
  match f with
  | .make =>
    if !constructed then typeError "must be called with new"
    needFunction (argument args 0)
    let settle ← newFunction (.builtin .itself) false "" 1
    discard (attempt (call (argument args 0) .undefined [.object settle, .object settle]))
    newPromise
  | _ => newPromise

end ContentSource.Script
