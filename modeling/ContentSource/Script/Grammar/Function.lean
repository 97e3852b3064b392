import ContentSource.Script.Grammar.Target

/-! # Blocks and functions

A block may not declare a name twice. A function collects the variables that are declared anywhere
in its body, and keeps its own text and the place where it starts.
-/
namespace ContentSource.Script

namespace Read

def blockBody (g : Grammar) : Read (List Stmt) := do
  let step (done : List Stmt) : Read (List Stmt × Bool) := do
    if ← takeMark "\x7d" then return (done, false)
    if let .stop := (← peek).token then fail "expecting '\x7d'"
    return ((← g.statement) :: done, true)
  return (← repeatWhile step (← fuel) []).reverse

def checkBlock (body : List Stmt) (taken : List String) (place : Place) : Read Unit := do
  let names := (blockNames body).map Prod.fst ++
    if taken.isEmpty then [] else (blockFunctions body).map Code.name
  let rec go : List String → Read Unit
    | [] => pure ()
    | n :: rest =>
      if rest.contains n then failAt place "invalid redefinition of lexical identifier" else go rest
  go names

def block (g : Grammar) : Read (List Stmt) := do
  expect "\x7b"
  let body ← blockBody g
  checkBlock body [] (← peek).place
  return body

/-- Runs a rule for the body of a function; gives the variables declared in it as well. -/
def inFunctionBody {α : Type} (isAsync : Bool) (rule : Read α) : Read (α × List String) := do
  let s ← get
  set { s with vars := [], inFunction := true, inAsync := isAsync, allowIn := true, inLoop := false,
               inSwitch := false }
  let a ← rule
  let vars := (← get).vars
  modify fun t => { s with rest := t.rest, last := t.last }
  return (a, vars)

def parameters (g : Grammar) : Read (List TargetItem × Option Target) := do
  expect "("
  let step (done : List TargetItem × Option Target) :
      Read ((List TargetItem × Option Target) × Bool) := do
    if ← takeMark ")" then return (done, false)
    if ← takeMark "..." then
      let t ← g.target
      expect ")"
      return ((done.1, some t), false)
    match (← peek).token with
    | .word _ | .mark "[" | .mark "\x7b" => pure ()
    | _ => fail "missing formal parameter"
    let item ← targetItem g
    if ← takeMark ")" then return ((item :: done.1, none), false)
    expect ","
    return ((item :: done.1, none), true)
  let (list, rest) ← repeatWhile step (← fuel) ([], none)
  return (list.reverse, rest)

def originFrom (start : Lexeme) : Read Origin := do
  let last := (← get).last
  let size := start.ahead.length + last.source.length - last.ahead.length
  return ⟨start.place, String.ofList (start.ahead.take size)⟩

/-- Parameters and body of a function, from the opening parenthesis on. The function itself starts
with an earlier token. -/
def functionRest (g : Grammar) (start : Lexeme) (name : String) (kind : FunctionKind)
    (isAsync : Bool) : Read Code := do
  let (((params, rest), body), vars) ← inFunctionBody isAsync do
    let p ← parameters g
    return (p, ← block g)
  return .mk name kind isAsync params rest vars body (← originFrom start)

def functionAfterWord (g : Grammar) (start : Lexeme) (isAsync needName : Bool) : Read Code := do
  if ← isMark "*" then fail "generator functions are not supported"
  let name ← do
    match (← peek).token with
    | .word w => if reserved.contains w then fail "function name expected" else
      discard advance
      pure w
    | _ => if needName then fail "function name expected" else pure ""
  functionRest g start name .plain isAsync

def arrowRest (g : Grammar) (start : Lexeme) (isAsync : Bool) (params : List TargetItem)
    (rest : Option Target) (outerIn : Bool) : Read Code := do
  let (body, vars) ← inFunctionBody isAsync do
    if ← isMark "\x7b" then block g
    else return [.give (some (← withIn outerIn g.assignment))]
  return .mk "" .arrow isAsync params rest vars body (← originFrom start)

end Read

end ContentSource.Script
