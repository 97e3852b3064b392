import ContentSource.Fields
import ContentSource.Plugin.Node

/-! # All nodes of a plugin

Nodes come in groups of entries, views and searches, which may repeat in any order. A catch group
holds processors instead, each a value under a name of which the last one counts. The processor
`redirect` names the hook of the redirect node.
-/
namespace ContentSource

structure Nodes where
  entries : List Node
  views : List Node
  searches : List Node
  redirect : Option Node
  processors : Fields String
deriving Inhabited

namespace Nodes

/-- The processor that makes the redirect node. -/
def redirectKey : String := "redirect"

/-- The processor that names the user agent of all requests. -/
def agentKey : String := "ua"

/-- The processor that chooses the charset of all requests. -/
def charsetKey : String := "encoding"

def none : Nodes := ⟨[], [], [], .none, .empty⟩

def addProcessors (s : Nodes) (group : Xml) : Nodes :=
  let found := (group.elementsNamed "processor").map fun p => (p.valueOf "type", p.valueOf "value")
  { s with processors := s.processors.insertAll found }

def addGroup (s : Nodes) (group : Xml) : Except ParseError Nodes :=
  let built := group.elements.mapM (Node.ofElement group.name)
  match group.name with
  | "catch" => .ok (s.addProcessors group)
  | "entry" => built.map fun ns => { s with entries := s.entries ++ ns }
  | "view" => built.map fun ns => { s with views := s.views ++ ns }
  | "search" => built.map fun ns => { s with searches := s.searches ++ ns }
  | other => .error (.unknownGroup other)

def withRedirect (s : Nodes) : Nodes :=
  { s with redirect := (s.processors.get? redirectKey).map Node.redirect }

def ofElement (x : Xml) : Except ParseError Nodes :=
  (x.elements.foldlM addGroup none).map withRedirect

def findView? (s : Nodes) (url : String) : Option Node := s.views.find? fun n => n.shows url

end Nodes

end ContentSource
