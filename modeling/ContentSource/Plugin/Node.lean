import ContentSource.DataType
import ContentSource.Error
import ContentSource.Plugin.Filter
import ContentSource.Xml.Basic

/-! # Nodes

A node of a plugin says what it yields, where that comes from, which hooks work on the way, and for
how long the result may be kept. Entries have a title and views an expression for the addresses they
show; a redirect node is made from a hook alone. An address or hook that is blank counts as none.
-/
namespace ContentSource

inductive NodeKind where
  | entry (title : String)
  | view (expr : Filter)
  | search
  | redirect
deriving Inhabited, Repr

structure Node where
  dataType : DataType
  url : Option String
  request : Option String
  parse : Option String
  cacheMillis : Nat
  kind : NodeKind
deriving Inhabited, Repr

namespace Node

def patternRefused : String := "the pattern cannot be read"

def readType (x : Xml) : Except ParseError DataType :=
  let text := x.valueOf "type"
  if text.isEmpty then .error (.missingType x.tag)
  else
    match DataType.parse? text with
    | some t => .ok t
    | none => .error (.malformedType text x.tag)

def readKind (group : String) (x : Xml) : Except ParseError NodeKind :=
  match group with
  | "entry" =>
    match Text.nonBlank? (x.valueOf "title") with
    | some title => .ok (.entry title)
    | none => .error (.missingTitle x.tag)
  | "view" =>
    match Text.nonBlank? (x.valueOf "expr") with
    | none => .error (.missingExpr x.tag)
    | some expr =>
      match Filter.parse? expr with
      | some f => .ok (.view f)
      | none => .error (.exprPattern patternRefused x.tag)
  | "search" => .ok .search
  | other => .error (.unknownGroup other)

def readCache (x : Xml) : Except ParseError Nat :=
  match CacheTime.ofAttribute (x.attribute? "cache") with
  | .ok n => .ok n
  | .error refusal => .error (.cache (x.valueOf "cache") refusal (some x.tag))

def ofElement (group : String) (x : Xml) : Except ParseError Node := do
  let dataType ← readType x
  let kind ← readKind group x
  let cacheMillis ← readCache x
  return { dataType
           url := Text.nonBlank? (x.valueOf "url")
           request := Text.nonBlank? (x.valueOf "request")
           parse := Text.nonBlank? (x.valueOf "parse")
           cacheMillis
           kind }

/-- The node whose whole content comes from one hook. -/
def redirect (hook : String) : Node :=
  ⟨⟨"native", "redirect"⟩, none, some hook, none, 0, .redirect⟩

def isRedirect (n : Node) : Bool :=
  match n.kind with
  | .redirect => true
  | _ => false

def title? (n : Node) : Option String :=
  match n.kind with
  | .entry title => some title
  | _ => none

def expr? (n : Node) : Option String :=
  match n.kind with
  | .view f => some f.expr
  | _ => none

/-- Whether a node shows an address; only views do. -/
def shows (n : Node) (url : String) : Bool :=
  match n.kind with
  | .view f => f.accepts url
  | _ => false

end Node

end ContentSource
