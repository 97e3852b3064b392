import ContentSource.Script.Grammar.Member

/-! # Rules for expressions

Expressions by how tightly their operators bind: unary operators and powers, the levels of binary
operators, conditions, and last assignments and arrow functions.
-/
namespace ContentSource.Script

namespace Read

def isReference : Expr → Bool
  | .name .. => true
  | .member _ _ optional _ => !optional
  | _ => false

def postfixExpr (g : Grammar) : Read Expr := do
  let e ← leftHand g
  let t ← peek
  match t.token, t.fresh with
  | .mark "++", false | .mark "--", false =>
    if !isReference e then fail "invalid increment/decrement operand"
    let up ← isMark "++"
    discard advance
    return .update up false e t.place
  | _, _ => return e

def deleted (e : Expr) (place : Place) : Read Expr :=
  match e with
  | .member o k _ p => return .delete o k p
  | .chain (.member o k _ p) => return .delete o k p
  | .name .. => failAt place "cannot delete a direct reference in strict mode"
  | e => return .sequence e (.bool true)

def unary (g : Grammar) : Read Expr := do
  let t ← peek
  let apply (op : UnaryOp) : Read Expr := do
    discard advance
    return .unary op (← g.unary)
  match t.token with
  | .mark "-" => apply .negate
  | .mark "+" => apply .plus
  | .mark "!" => apply .not
  | .mark "~" => apply .complement
  | .word "typeof" => apply .typeOf
  | .word "void" => apply .void
  | .word "delete" =>
    discard advance
    deleted (← g.unary) t.place
  | .word "await" =>
    if (← get).inAsync then
      discard advance
      return .await (← g.unary)
    else postfixExpr g
  | .mark "++" | .mark "--" =>
    let up ← isMark "++"
    discard advance
    let e ← g.unary
    if !isReference e then failAt t.place "invalid increment/decrement operand"
    return .update up true e t.place
  | _ => postfixExpr g

/-- The binary operators by level, the loosest first. -/
def levels : List (List (String × BinaryOp)) :=
  [[("|", .or)], [("^", .xor)], [("&", .and)],
    [("==", .equal), ("!=", .notEqual), ("===", .same), ("!==", .notSame)],
    [("<", .less), ("<=", .lessEqual), (">", .greater), (">=", .greaterEqual)],
    [("<<", .shiftLeft), (">>", .shiftRight), (">>>", .shiftRightZero)],
    [("+", .add), ("-", .sub)], [("*", .mul), ("/", .div), ("%", .mod)]]

def operator? (level : List (String × BinaryOp)) : Read (Option BinaryOp) := do
  match (← peek).token with
  | .mark m => return (level.find? fun row => row.1 == m).map Prod.snd
  | .word "instanceof" =>
    return if level.any fun row => row.1 == "<" then some .instanceOf else none
  | .word "in" =>
    return if (level.any fun row => row.1 == "<") && (← get).allowIn then some .isIn else none
  | _ => return none

def isUnary : Expr → Bool
  | .unary .. | .delete .. | .await .. => true
  | _ => false

def powerExpr (g : Grammar) : Read Expr := do
  let t ← peek
  let base ← g.unary
  let p ← peek
  if ← isMark "**" then
    let parenthesised := match t.token with
      | .mark "(" => true
      | _ => false
    if isUnary base && !parenthesised then
      fail "unparenthesized unary expression can't appear on the left-hand side of '**'"
    discard advance
    -- The exponent binds to the right.
    let rec right : Nat → Read Expr
      | 0 => unexpected
      | n + 1 => do
        let e ← g.unary
        let q ← peek
        if ← takeMark "**" then return .binary .power e (← right n) q.place else return e
    return .binary .power base (← right (← fuel)) p.place
  else return base

def binaryLevels (g : Grammar) : List (List (String × BinaryOp)) → Read Expr
  | [] => powerExpr g
  | level :: tighter => do
    let start ← binaryLevels g tighter
    let step (left : Expr) : Read (Expr × Bool) := do
      let t ← peek
      match ← operator? level with
      | none => return (left, false)
      | some op =>
        discard advance
        let right ← binaryLevels g tighter
        return (.binary op left right t.place, true)
    repeatWhile step (← fuel) start

def logicalLevel (mark : String) (op : LogicalOp) (tighter : Read Expr) : Read Expr := do
  let start ← tighter
  let step (left : Expr) : Read (Expr × Bool) := do
    if ← takeMark mark then return (.logical op left (← tighter), true) else return (left, false)
  repeatWhile step (← fuel) start

def logicalExpr (g : Grammar) : Read Expr :=
  logicalLevel "??" .coalesce <| logicalLevel "||" .or <| logicalLevel "&&" .and <|
    binaryLevels g levels

def assignOps : List (String × AssignOp) :=
  [("=", .plain), ("+=", .binary .add), ("-=", .binary .sub), ("*=", .binary .mul),
    ("/=", .binary .div), ("%=", .binary .mod), ("**=", .binary .power), ("&=", .binary .and),
    ("|=", .binary .or), ("^=", .binary .xor), ("<<=", .binary .shiftLeft),
    (">>=", .binary .shiftRight), (">>>=", .binary .shiftRightZero), ("&&=", .logical .and),
    ("||=", .logical .or), ("??=", .logical .coalesce)]

def assignOp? : Read (Option AssignOp) := do
  match (← peek).token with
  | .mark m => return (assignOps.find? fun row => row.1 == m).map Prod.snd
  | _ => return none

/-- An arrow function with parenthesised parameters stands in front. -/
def arrowAhead (tokens : List Lexeme) : Bool :=
  startsWith "(" tokens && startsWith "=>" (afterBrackets 0 tokens)

def nameArrowAhead : List Lexeme → Bool
  | t :: rest =>
    (match t.token with | .word w => !reserved.contains w | _ => false) && startsWith "=>" rest
  | [] => false

def arrow (g : Grammar) (start : Lexeme) (isAsync : Bool) : Read Expr := do
  let outerIn := (← get).allowIn
  let (params, rest) ←
    if ← isMark "(" then parameters g
    else pure ([.item (.name (← bindingName "variable name expected")) none], none)
  expect "=>"
  return .function (← arrowRest g start isAsync params rest outerIn)

/-- Gives an unnamed function the name of what it is assigned to. -/
def named (name : String) : Expr → Expr
  | .function (.mk "" kind a params rest vars body origin) =>
    .function (.mk name (if kind = .plain then .unnamed else kind) a params rest vars body origin)
  | e => e

def assignment (g : Grammar) : Read Expr := do
  let tokens := (← get).rest
  let start ← peek
  if arrowAhead tokens || nameArrowAhead tokens then return ← arrow g start false
  if ← isWord "async" then
    let after := tokens.drop 1
    if arrowAhead after || nameArrowAhead after then
      discard advance
      return ← arrow g start true
  let opens := startsWith "[" tokens || startsWith "\x7b" tokens
  if opens && startsWith "=" (afterBrackets 0 tokens) then
    let t ← g.target
    let p ← peek
    expect "="
    return .unpack t (← g.assignment) p.place
  let left ← logicalExpr g
  if ← takeMark "?" then
    let yes ← withIn true g.assignment
    expect ":"
    return .choice left yes (← g.assignment)
  let t ← peek
  match ← assignOp? with
  | none => return left
  | some op =>
    if !isReference left then fail "invalid assignment left-hand side"
    if let .name n _ := left then
      if n == "eval" || n == "arguments" then fail "invalid lvalue in strict mode"
    discard advance
    let value ← g.assignment
    let value := match op, left with
      | .plain, .name n _ => named n value
      | _, _ => value
    return .assign op left value t.place

def expression (g : Grammar) : Read Expr := do
  let start ← g.assignment
  let step (left : Expr) : Read (Expr × Bool) := do
    if ← takeMark "," then return (.sequence left (← g.assignment), true) else return (left, false)
  repeatWhile step (← fuel) start

end Read

end ContentSource.Script
