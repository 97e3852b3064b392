import ContentSource.Script.Grammar.Expression

/-! # Rules for statements

Declarations, branches, loops, jumps and blocks. A jump must stand in something that it can leave or
restart, and a `return` in a function.
-/
namespace ContentSource.Script

namespace Read

def declarations (g : Grammar) (kind : DeclKind) (inHead : Bool) : Read (List Decl) := do
  let step (done : List Decl) : Read (List Decl × Bool) := do
    let place := (← peek).place
    let t ← g.target
    if kind = .var then declareVars t.names
    let value ← initializer? g
    let value := match t, value with
      | .name n, some v => some (named n v)
      | _, v => v
    if value.isNone && !inHead then
      if kind = .const then fail "missing initializer for const variable"
      match t with
      | .name _ => pure ()
      | _ => fail "expecting '='"
    return (.mk t value place :: done, ← takeMark ",")
  return (← repeatWhile step (← fuel) []).reverse

def declKind? : Read (Option DeclKind) := do
  let after := (← get).rest.drop 1
  match (← peek).token with
  | .word "var" => return some .var
  | .word "const" => return some .const
  | .word "let" =>
    match after with
    | t :: _ =>
      match t.token with
      | .word w => return if reserved.contains w && w != "let" then none else some .letOnce
      | .mark "[" | .mark "\x7b" => return some .letOnce
      | _ => return none
    | [] => return none
  | _ => return none

def inLoopBody {α : Type} (rule : Read α) : Read α := do
  let s ← get
  set { s with inLoop := true }
  let a ← rule
  modify fun t => { t with inLoop := s.inLoop }
  return a

def forStatement (g : Grammar) : Read Stmt := do
  discard advance
  expect "("
  let finish (start : Option Stmt) : Read Stmt := do
    expect ";"
    let test ← if ← isMark ";" then pure none else some <$> withIn true g.expression
    expect ";"
    let next ← if ← isMark ")" then pure none else some <$> withIn true g.expression
    expect ")"
    return .forLoop start test next (← inLoopBody g.statement)
  let each (kind : Option DeclKind) (t : Target) : Read Stmt := do
    let keys ← isWord "in"
    discard advance
    let source ← withIn true (if keys then g.expression else g.assignment)
    expect ")"
    return .forEach keys kind t source (← inLoopBody g.statement)
  let eachAhead : Read Bool := do return (← isWord "in") || (← isWord "of")
  if ← isMark ";" then finish none
  else
    match ← declKind? with
    | some kind =>
      discard advance
      let saved ← get
      let t ← g.target
      if kind = .var then declareVars t.names
      if ← eachAhead then each (some kind) t
      else
        set saved
        finish (some (.declare kind (← withIn false (declarations g kind false))))
    | none =>
      let e ← withIn false g.expression
      if ← eachAhead then
        match e with
        | .name n _ => each none (.name n)
        | _ => fail "invalid for in/of left hand-side"
      else finish (some (.expr e))

def switchStatement (g : Grammar) : Read Stmt := do
  discard advance
  expect "("
  let value ← withIn true g.expression
  expect ")"
  expect "\x7b"
  let s ← get
  set { s with inSwitch := true }
  let caseEnd : Read Bool := do
    return (← isWord "case") || (← isWord "default") || (← isMark "\x7d")
  let step (done : List Case) : Read (List Case × Bool) := do
    if ← takeMark "\x7d" then return (done, false)
    let test ← do
      if ← takeWord "default" then pure none
      else if ← takeWord "case" then some <$> withIn true g.expression
      else fail "invalid switch statement"
    expect ":"
    let stmtStep (body : List Stmt) : Read (List Stmt × Bool) := do
      if ← caseEnd then return (body, false)
      if let .stop := (← peek).token then fail "expecting '\x7d'"
      return ((← g.statement) :: body, true)
    let body ← repeatWhile stmtStep (← fuel) []
    return (.mk test body.reverse :: done, true)
  let cases ← repeatWhile step (← fuel) []
  modify fun t => { t with inSwitch := s.inSwitch }
  return .switch value cases.reverse

def tryStatement (g : Grammar) : Read Stmt := do
  discard advance
  let body ← block g
  let (caught, handler) ← do
    if ← takeWord "catch" then
      let t ← do
        if ← takeMark "(" then
          let t ← g.target
          expect ")"
          pure (some t)
        else pure none
      pure (t, some (← block g))
    else pure (none, none)
  let final ← if ← takeWord "finally" then some <$> block g else pure none
  if handler.isNone && final.isNone then fail "expecting catch or finally"
  return .attempt body caught handler final

/-- The label of a `break` or `continue` statement. -/
def jumpLabel : Read (Option String) := do
  let t ← peek
  match t.token, t.fresh with
  | .word w, false =>
    if reserved.contains w then return none
    discard advance
    return some w
  | _, _ => return none

def statement (g : Grammar) : Read Stmt := do
  let t ← peek
  let after := (← get).rest.drop 1
  match t.token with
  | .mark "\x7b" => return .block (← block g)
  | .mark ";" =>
    discard advance
    return .empty
  | .word "function" =>
    discard advance
    return .function (← functionAfterWord g t false true)
  | .word "return" =>
    unless (← get).inFunction do fail "return not in a function"
    discard advance
    let next ← peek
    let none? := next.fresh || match next.token with
      | .mark ";" | .mark "\x7d" | .stop => true
      | _ => false
    let value ← if none? then pure none else some <$> g.expression
    endStatement
    return .give value
  | .word "if" =>
    discard advance
    expect "("
    let test ← withIn true g.expression
    expect ")"
    let yes ← g.statement
    let no ← if ← takeWord "else" then some <$> g.statement else pure none
    return .branch test yes no
  | .word "while" =>
    discard advance
    expect "("
    let test ← withIn true g.expression
    expect ")"
    return .whileLoop test (← inLoopBody g.statement)
  | .word "do" =>
    discard advance
    let body ← inLoopBody g.statement
    unless ← takeWord "while" do fail "expecting 'while'"
    expect "("
    let test ← withIn true g.expression
    expect ")"
    discard (takeMark ";")
    return .doLoop body test
  | .word "for" => forStatement g
  | .word "switch" => switchStatement g
  | .word "try" => tryStatement g
  | .word "throw" =>
    discard advance
    if (← peek).fresh then fail "line terminator not allowed after throw"
    let value ← g.expression
    endStatement
    return .throw value t.place
  | .word "break" =>
    discard advance
    let label ← jumpLabel
    let s ← get
    if label.isNone && !s.inLoop && !s.inSwitch then fail "break must be inside loop or switch"
    endStatement
    return .leave label
  | .word "continue" =>
    discard advance
    let label ← jumpLabel
    if label.isNone && !(← get).inLoop then fail "continue must be inside loop"
    endStatement
    return .next label
  | .word "debugger" =>
    discard advance
    endStatement
    return .empty
  | .word "with" => fail "invalid keyword: with"
  | _ =>
    if let some kind ← declKind? then
      discard advance
      let list ← declarations g kind false
      endStatement
      return .declare kind list
    if let .word w := t.token then
      if startsWith ":" after && !reserved.contains w then
        discard advance
        discard advance
        return .labelled w (← g.statement)
      if w == "async" then
        let functionAhead := match after with
          | f :: _ => (match f.token with | .word "function" => true | _ => false) && !f.fresh
          | [] => false
        if functionAhead then
          discard advance
          discard advance
          return .function (← functionAfterWord g t true true)
    let e ← g.expression
    endStatement
    return .expr e

end Read

end ContentSource.Script
