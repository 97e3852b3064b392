import ContentSource.Fingerprint
import ContentSource.Pipeline
import ContentSource.Plugin.Document
import ContentSource.Session

/-! # Engines

An engine is a loaded plugin: its description and nodes, the request that every pipeline starts
with, and its script, which is known by the title of the plugin and fetches other scripts with that
same request. All of these stay as they are; only the session changes. Every error is reported once,
under the title of the plugin or as that of an unknown plugin.
-/
namespace ContentSource

structure Engine (σ : Type) where
  info : Meta
  nodes : Nodes
  initial : Request
  bridge : Bridge σ
  plugin_eq : bridge.setting.plugin = info.title
  request_eq : bridge.setting.request = initial

namespace Engine

variable {σ : Type}

/-- The name under which errors of an unreadable plugin are reported. -/
def unknownPlugin : String := "<unknown plugin>"

/-- A new request with the user agent and charset that the processors ask for. -/
def initialRequest (processors : Fields String) : Except ParseError Request :=
  let agent :=
    match processors.get? Nodes.agentKey with
    | some a => Fields.empty.insert "User-Agent" a
    | none => .empty
  let r : Request := { Request.initial with headers := agent }
  match processors.get? Nodes.charsetKey with
  | none => .ok r
  | some label =>
    match r.setLabel? label with
    | some r => .ok r
    | none => .error (.charset label)

def orFail {α : Type} : Except PluginError α → Act σ α
  | .ok a => pure a
  | .error e => Act.fail e

def ofDocument (host : Host σ) (limits : Script.Limits) (d : Document) (initial : Request) :
    Engine σ where
  info := d.info
  nodes := d.nodes
  initial := initial
  bridge := ⟨⟨host, d.info.title, initial, limits⟩, d.script⟩
  plugin_eq := rfl
  request_eq := rfl

def load (host : Host σ) (limits : Script.Limits) (source : String) : Act σ (Engine σ) := do
  let d ← Act.logged unknownPlugin (orFail (Document.parse source))
  let initial ← Act.logged d.info.title
    (orFail ((initialRequest d.nodes.processors).mapError PluginError.parse))
  let e := ofDocument host limits d initial
  e.bridge.start
  return e

def fetch (e : Engine σ) (url : String) (r : Request) : Act σ Response :=
  Act.logged e.info.title (Act.fetch e.bridge.setting.host url r)

def perform (e : Engine σ) : Effect → Act σ Response
  | .fetch url r => e.fetch url r
  | .invoke hook r => e.bridge.invoke hook r

def getData (e : Engine σ) (n : Node) (input : Option String) (page : UInt32) : Act σ Response :=
  Pipeline.run e.perform n e.initial (Pipeline.workingUrl n e.initial input page)

def processResponse (e : Engine σ) (link : String) : Act σ Response :=
  match Link.parse? link with
  | none => Act.logged e.info.title (Act.fail (.parse (.notALink link)))
  | some l => e.getData (Node.redirect l.type) (some l.payload) 1

def processData (e : Engine σ) (link : String) : Act σ (List UInt8) := do
  return (← e.processResponse link).body

/-- The node for an address: the first view that shows it, or the redirect node if that is
allowed. -/
def findNode? (e : Engine σ) (url : String) (allowRedirect : Bool) : Option Node :=
  if !e.info.covers url then none
  else (e.nodes.findView? url).or (if allowRedirect then e.nodes.redirect else none)

def search? (e : Engine σ) : Option Node := e.nodes.searches.head?

/-- What stays the same for a plugin: a fingerprint of its author and title. -/
def guid (e : Engine σ) : String := Fingerprint.ofText (e.info.author ++ e.info.title)

end Engine

/-- What a host offers, as it is shown. -/
def Host.shown {σ : Type} (h : Host σ) : String :=
  "IoProvider \x7b custom_functions: [" ++
    ", ".intercalate (h.functions.toList.map fun f => Text.quoted f.1) ++ "], .. \x7d"

end ContentSource
