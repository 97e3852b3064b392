import ContentSource.Script.Number
import ContentSource.Text.Utf16

/-! # Programs

The tree of a script. Expressions that can fail carry the place where they stand, so that an error
can name its line. A function lists the variables that it declares anywhere in its body; functions
and block-scoped names are found among the statements of the body or block that declares them.
-/
namespace ContentSource.Script

open Text (Units)

/-- A place in a script, counted from one. -/
structure Place where
  line : Nat
  column : Nat
deriving Inhabited, Repr, DecidableEq

/-- Where a function stands and how it is written. -/
structure Origin where
  place : Place
  text : String
deriving Inhabited, Repr

inductive UnaryOp where
  | negate | plus | not | complement | typeOf | void
deriving DecidableEq, Repr

inductive BinaryOp where
  | add | sub | mul | div | mod | power
  | equal | notEqual | same | notSame | less | lessEqual | greater | greaterEqual
  | and | or | xor | shiftLeft | shiftRight | shiftRightZero
  | isIn | instanceOf
deriving DecidableEq, Repr

/-- Operators that may leave their second operand alone. -/
inductive LogicalOp where
  | and | or | coalesce
deriving DecidableEq, Repr

inductive AssignOp where
  | plain
  | binary (op : BinaryOp)
  | logical (op : LogicalOp)
deriving DecidableEq, Repr

inductive DeclKind where
  | var | letOnce | const
deriving DecidableEq, Repr

/-- How a function is written. An `unnamed` one has the name of what it was assigned to. -/
inductive FunctionKind where
  | plain | unnamed | arrow | method
deriving DecidableEq, Repr

mutual

inductive Target where
  | name (name : String)
  | object (fields : List TargetField) (rest : Option String)
  | array (items : List TargetItem) (rest : Option Target)

inductive TargetField where
  | mk (key : Expr) (target : Target) (default? : Option Expr)

inductive TargetItem where
  | hole
  | item (target : Target) (default? : Option Expr)

inductive Expr where
  | number (n : Number)
  | bigInt (n : Int)
  | string (s : Units)
  | template (first : Units) (parts : List TemplatePart)
  | bool (b : Bool)
  | null
  | this
  | name (name : String) (place : Place)
  | array (items : List Item)
  | object (fields : List Field)
  | function (code : Code)
  | member (object key : Expr) (optional : Bool) (place : Place)
  | call (callee : Expr) (args : List Item) (optional : Bool) (place : Place)
  | chain (e : Expr)
  | new (callee : Expr) (args : List Item) (place : Place)
  | unary (op : UnaryOp) (e : Expr)
  | delete (object key : Expr) (place : Place)
  | update (increment before : Bool) (target : Expr) (place : Place)
  | binary (op : BinaryOp) (a b : Expr) (place : Place)
  | logical (op : LogicalOp) (a b : Expr)
  | assign (op : AssignOp) (target value : Expr) (place : Place)
  | unpack (target : Target) (value : Expr) (place : Place)
  | choice (test yes no : Expr)
  | await (e : Expr)
  | sequence (a b : Expr)

inductive TemplatePart where
  | mk (value : Expr) (after : Units)

inductive Item where
  | hole
  | one (e : Expr)
  | spread (e : Expr)

inductive Field where
  | value (key value : Expr)
  | proto (value : Expr)
  | getter (key : Expr) (code : Code)
  | setter (key : Expr) (code : Code)
  | spread (e : Expr)

inductive Code where
  | mk (name : String) (kind : FunctionKind) (isAsync : Bool) (params : List TargetItem)
      (rest : Option Target) (vars : List String) (body : List Stmt) (origin : Origin)

inductive Stmt where
  | expr (e : Expr)
  | declare (kind : DeclKind) (items : List Decl)
  | function (code : Code)
  | give (value : Option Expr)
  | branch (test : Expr) (yes : Stmt) (no : Option Stmt)
  | whileLoop (test : Expr) (body : Stmt)
  | doLoop (body : Stmt) (test : Expr)
  | forLoop (start : Option Stmt) (test step : Option Expr) (body : Stmt)
  | forEach (keys : Bool) (kind : Option DeclKind) (target : Target) (source : Expr) (body : Stmt)
  | leave (label : Option String)
  | next (label : Option String)
  | throw (value : Expr) (place : Place)
  | attempt (body : List Stmt) (catchTarget : Option Target) (handler : Option (List Stmt))
      (final : Option (List Stmt))
  | switch (value : Expr) (cases : List Case)
  | block (body : List Stmt)
  | labelled (label : String) (body : Stmt)
  | empty

inductive Decl where
  | mk (target : Target) (value : Option Expr) (place : Place)

inductive Case where
  | mk (test : Option Expr) (body : List Stmt)

end

instance : Inhabited Expr := ⟨.null⟩
instance : Inhabited Stmt := ⟨.empty⟩

structure Program where
  vars : List String
  body : List Stmt

def Code.name : Code → String
  | mk name .. => name

def Code.kind : Code → FunctionKind
  | mk _ kind .. => kind

def Code.isAsync : Code → Bool
  | mk _ _ a .. => a

def Code.params : Code → List TargetItem
  | mk _ _ _ params .. => params

def Code.rest : Code → Option Target
  | mk _ _ _ _ rest .. => rest

def Code.vars : Code → List String
  | mk _ _ _ _ _ vars .. => vars

def Code.body : Code → List Stmt
  | mk _ _ _ _ _ _ body _ => body

def Code.origin : Code → Origin
  | mk _ _ _ _ _ _ _ origin => origin

/-- The number of parameters before the first with a default. -/
def Code.arity (c : Code) : Nat :=
  (c.params.takeWhile fun
    | .item _ none => true
    | _ => false).length

mutual

def Target.names : Target → List String
  | .name n => [n]
  | .object fields rest => fieldNames fields ++ rest.toList
  | .array items rest =>
    itemNames items ++
      match rest with
      | some t => t.names
      | none => []

def Target.fieldNames : List TargetField → List String
  | [] => []
  | .mk _ t _ :: more => t.names ++ fieldNames more

def Target.itemNames : List TargetItem → List String
  | [] => []
  | .hole :: more => itemNames more
  | .item t _ :: more => t.names ++ itemNames more

end

/-- The names that a list of statements declares for its own block, and whether they may change. -/
def blockNames (body : List Stmt) : List (String × Bool) :=
  body.flatMap fun
    | .declare .var _ => []
    | .declare kind items => items.flatMap fun
      | .mk t _ _ => t.names.map fun n => (n, kind != .const)
    | _ => []

def blockFunctions (body : List Stmt) : List Code :=
  body.filterMap fun
    | .function code => some code
    | _ => none

end ContentSource.Script
