import ContentSource.Plugin.Meta
import ContentSource.Plugin.Nodes
import ContentSource.Xml.Reader

/-! # Plugin documents

A plugin is an XML document with a description, nodes and a script, each in the first element of its
name wherever it stands. The description and the nodes have to be there; a missing script is empty.
-/
namespace ContentSource

structure Document where
  info : Meta
  nodes : Nodes
  script : String
deriving Inhabited

namespace Document

def ofRoot (root : Xml) : Except ParseError Document := do
  let some info := root.first? "meta" | .error .noMeta
  let some nodes := root.first? "nodes" | .error .noNodes
  return { info := ← Meta.ofElement info
           nodes := ← Nodes.ofElement nodes
           script := ((root.first? "script").map Xml.plainText).getD "" }

def parse (source : String) : Except PluginError Document :=
  match Xml.parse? source with
  | none => .error .xml
  | some root => (ofRoot root).mapError PluginError.parse

end Document

end ContentSource
