import ContentSource.Engine
import ContentSource.Json.Printer

/-! # Overviews of plugins

What a plugin says about itself and which nodes it has, as lines of text and as JSON.
-/
namespace ContentSource

def Node.described (n : Node) : String :=
  let found :=
    match n.kind with
    | .entry title => " \"" ++ title ++ "\""
    | .view f => " /" ++ f.expr ++ "/"
    | .search | .redirect => ""
  let url := (n.url.map fun u => " → " ++ u).getD ""
  let hooks := (n.request.map fun h => "request=" ++ h).toList ++
    (n.parse.map fun h => "parse=" ++ h).toList
  n.dataType.render ++ found ++ url ++
    if hooks.isEmpty then "" else " [" ++ ", ".intercalate hooks ++ "]"

def Node.toJson (n : Node) : Json :=
  let text (s : Option String) : Json := (s.map Json.string).getD .null
  .mkObject [("type", .string n.dataType.render), ("title", text n.title?), ("url", text n.url),
    ("request", text n.request), ("parse", text n.parse), ("cache_millis", .int n.cacheMillis)]

namespace Engine

variable {σ : Type}

/-- A line of the overview that is left out if there is nothing to say. -/
def optionalLine (label value : String) : List String :=
  if value.isEmpty then [] else ["   " ++ label ++ ": " ++ value]

def overview (e : Engine σ) : List String :=
  let m := e.info
  ["🧩 " ++ m.title ++ " v" ++ toString m.version] ++
    optionalLine "Author" m.author ++
    ["   GUID: " ++ e.guid] ++
    optionalLine "Source" m.sourceUrl ++
    ["   Match: " ++ m.source.expr] ++
    optionalLine "Summary" m.summary ++
    (if m.tags.isEmpty then [] else ["   Tags: " ++ ", ".intercalate m.tags]) ++
    ["", "📚 Entries (" ++ toString e.nodes.entries.length ++ "):"] ++
    (e.nodes.entries.zipIdx.map fun n => "   [" ++ toString n.2 ++ "] " ++ n.1.described) ++
    ["", "👁  Views (" ++ toString e.nodes.views.length ++ "):"] ++
    (e.nodes.views.map fun n => "   " ++ n.described) ++
    ((e.search?.map fun n => ["", "🔍 Search: " ++ n.described]).getD []) ++
    ((e.nodes.redirect.map fun n => ["", "↪️  Redirect: " ++ n.described]).getD []) ++
    if m.actions.isEmpty then []
    else ["", "⚡ Actions:"] ++
      m.actions.map fun a => "   " ++ a.title ++ " (" ++ a.kind ++ "): " ++ a.value

def toJson (e : Engine σ) : Json :=
  let m := e.info
  let action (a : Action) : Json :=
    .mkObject [("title", .string a.title), ("type", .string a.kind), ("value", .string a.value)]
  let node (n : Option Node) : Json := (n.map Node.toJson).getD .null
  .mkObject [("title", .string m.title), ("version", .int m.version), ("author", .string m.author),
    ("guid", .string e.guid), ("source_url", .string m.sourceUrl),
    ("source_expr", .string m.source.expr), ("summary", .string m.summary),
    ("tags", .array (m.tags.map Json.string)),
    ("properties", .mkObject (m.properties.toList.map fun p => (p.1, .bool p.2))),
    ("actions", .array (m.actions.map action)), ("entries", .array (e.nodes.entries.map Node.toJson)),
    ("views", .array (e.nodes.views.map Node.toJson)), ("search", node e.search?),
    ("redirect", node e.nodes.redirect)]

end Engine

end ContentSource
