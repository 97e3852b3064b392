import ContentSource.Script.Grammar.Statement

/-! # Reading programs

A script is read by recursive descent over its tokens. The number of levels that the rules of the
grammar may nest is bounded by the number of tokens, so every script is read or refused. Scripts are
strict.
-/
namespace ContentSource.Script

namespace Read

mutual

/-- The rules of the grammar, nested at most so many levels deep. -/
def expressionAt : Nat → Read Expr
  | 0 => fail "stack overflow"
  | n + 1 => expression ⟨expressionAt n, assignmentAt n, unaryAt n, statementAt n, targetAt n⟩

def assignmentAt : Nat → Read Expr
  | 0 => fail "stack overflow"
  | n + 1 => assignment ⟨expressionAt n, assignmentAt n, unaryAt n, statementAt n, targetAt n⟩

def unaryAt : Nat → Read Expr
  | 0 => fail "stack overflow"
  | n + 1 => unary ⟨expressionAt n, assignmentAt n, unaryAt n, statementAt n, targetAt n⟩

def statementAt : Nat → Read Stmt
  | 0 => fail "stack overflow"
  | n + 1 => statement ⟨expressionAt n, assignmentAt n, unaryAt n, statementAt n, targetAt n⟩

def targetAt : Nat → Read Target
  | 0 => fail "stack overflow"
  | n + 1 => target ⟨expressionAt n, assignmentAt n, unaryAt n, statementAt n, targetAt n⟩

end

def program : Read Program := do
  check
  let n := 4 * (← fuel)
  let step (done : List Stmt) : Read (List Stmt × Bool) := do
    if let .stop := (← peek).token then return (done, false)
    return ((← statementAt n) :: done, true)
  let body := (← repeatWhile step (← fuel) []).reverse
  checkBlock body [] (← peek).place
  return ⟨(← get).vars, body⟩

end Read

def ReadState.initial (lexemes : List Lexeme) : ReadState :=
  ⟨lexemes, Read.endLexeme, lexemes.length, [], false, false, true, false, false⟩

def Program.read (source : String) : Except SyntaxError Program :=
  match Read.program.run (ReadState.initial (tokens source)) with
  | .ok p _ => .ok p
  | .error e _ => .error e

end ContentSource.Script
