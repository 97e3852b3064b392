import ContentSource.Script.Token

/-! # Steps through tokens

Reading takes the tokens of a script one by one. The rules of the grammar call each other through
`Grammar`, which holds the rules one level further in. What was declared so far, and in which kind
of body the reading is, goes along.
-/
namespace ContentSource.Script

structure ReadState where
  rest : List Lexeme
  last : Lexeme
  /-- A bound on what is left to read. -/
  size : Nat
  /-- The variables declared so far in the function that is being read. -/
  vars : List String
  inFunction : Bool
  inAsync : Bool
  allowIn : Bool
  inLoop : Bool
  inSwitch : Bool

abbrev Read := EStateM SyntaxError ReadState

/-- The rules that rules of the grammar refer to. -/
structure Grammar where
  expression : Read Expr
  assignment : Read Expr
  unary : Read Expr
  statement : Read Stmt
  target : Read Target

namespace Read

def endLexeme : Lexeme := ⟨.stop, ⟨1, 1⟩, false, "", []⟩

def peek : Read Lexeme := do return (← get).rest.head?.getD endLexeme

def failAt {α : Type} (place : Place) (message : String) : Read α := throw ⟨message, place⟩

def fail {α : Type} (message : String) : Read α := do failAt (← peek).place message

/-- Fails if the token in front could not be read. -/
def check : Read Unit := do
  match (← peek).token with
  | .bad message => fail message
  | _ => pure ()

def advance : Read Lexeme := do
  let now ← peek
  modify fun s =>
    match s.rest with
    | last :: next :: more => { s with rest := next :: more, last := last }
    | _ => s
  check
  return now

def isMark (m : String) : Read Bool := do
  match (← peek).token with
  | .mark s => return s == m
  | _ => return false

def isWord (w : String) : Read Bool := do
  match (← peek).token with
  | .word s => return s == w
  | _ => return false

def takeMark (m : String) : Read Bool := do
  if ← isMark m then
    discard advance
    return true
  else return false

def takeWord (w : String) : Read Bool := do
  if ← isWord w then
    discard advance
    return true
  else return false

def expect (m : String) : Read Unit := do
  unless ← takeMark m do fail ("expecting '" ++ m ++ "'")

def unexpected {α : Type} : Read α := do
  let t ← peek
  failAt t.place ("unexpected token in expression: '" ++ t.source ++ "'")

/-- A statement ends at a semicolon, or where one may be left out. -/
def endStatement : Read Unit := do
  if ← takeMark ";" then return
  let t ← peek
  match t.token with
  | .stop => return
  | .mark "\x7d" => return
  | _ => unless t.fresh do fail "expecting ';'"

def reserved : List String :=
  ["break", "case", "catch", "class", "const", "continue", "debugger", "default", "delete", "do",
    "else", "enum", "export", "extends", "false", "finally", "for", "function", "if", "import",
    "in", "instanceof", "new", "null", "return", "super", "switch", "this", "throw", "true", "try",
    "typeof", "var", "void", "while", "with", "implements", "interface", "let", "package",
    "private", "protected", "public", "static", "yield"]

def bindingName (message : String) : Read String := do
  match (← peek).token with
  | .word w =>
    if reserved.contains w then fail message
    else
      discard advance
      return w
  | _ => fail message

def declareVars (names : List String) : Read Unit :=
  modify fun s => { s with vars := s.vars ++ names.filter fun n => !s.vars.contains n }

def repeatWhile {α : Type} (step : α → Read (α × Bool)) : Nat → α → Read α
  | 0, a => return a
  | fuel + 1, a => do
    let (b, more) ← step a
    if more then repeatWhile step fuel b else return b

def fuel : Read Nat := do return (← get).size + 1

def withIn {α : Type} (allow : Bool) (rule : Read α) : Read α := do
  let old := (← get).allowIn
  modify fun s => { s with allowIn := allow }
  let a ← rule
  modify fun s => { s with allowIn := old }
  return a

end Read

end ContentSource.Script
