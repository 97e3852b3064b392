import ContentSource.CommandLine.Outcome
import ContentSource.CommandLine.Overview

/-! # Running commands

A command loads a plugin with the configuration and asks it for something. It has no transport, so
only `NULL` links have content. The plugin file is read first, then the configuration, then the
plugin is loaded; the first of these that fails is reported.
-/
namespace ContentSource

inductive FileText where
  | missing
  | unreadable (reason : String)
  | text (s : String)
deriving DecidableEq, Repr

namespace FileText

def noSuchFile : String := "No such file or directory (os error 2)"

def read : FileText → Except String String
  | missing => .error noSuchFile
  | unreadable reason => .error reason
  | text s => .ok s

end FileText

/-- Whether a user agent can be sent: it has no control characters but tabs. -/
def HttpConfig.isUsable (c : HttpConfig) : Bool :=
  c.userAgent.toList.all fun ch => ch = '\t' || (0x20 ≤ ch.toNat && ch.toNat != 0x7F)

namespace CommandLine

structure Files where
  plugin : FileText
  config : FileText
  configPath : String

def readPlugin (files : Files) (path : String) : Except Failure String :=
  files.plugin.read.mapError fun reason => ⟨"cannot read plugin " ++ path, [reason]⟩

/-- The configuration; a missing file leaves everything as it is by default. -/
def readConfig (files : Files) : Except Failure Config :=
  let fail (explanation : String) : Except Failure Config :=
    .error (PluginError.config explanation).failure
  match files.config with
  | .missing => .ok Config.default
  | .unreadable reason => fail ("failed to read " ++ files.configPath ++ ": " ++ reason)
  | .text s =>
    match Config.parse? s with
    | some c => .ok c
    | none => fail (files.configPath ++ ": the configuration cannot be read")

def checkTransport (c : HttpConfig) : Except Failure Unit :=
  if c.isUsable then .ok ()
  else .error ⟨"failed to build HTTP client", ["builder error", "failed to parse header value"]⟩

def host : Host Unit := ⟨fun url _ s => (.error ⟨"no transport for " ++ url, []⟩, s), .empty⟩

def settled {α : Type} (x : Act Unit α) (s : Session Unit) : Except Failure (α × Session Unit) :=
  match x s with
  | some (.ok a, s) => .ok (a, s)
  | some (.error e, _) => .error e.failure
  | none => .error ⟨"the plugin does not come to an end", []⟩

/-- Content, at most so many characters of it; zero stands for all of them. -/
def shownBody (body : String) (most : Nat) : String :=
  if most = 0 || body.length ≤ most then body ++ "\n"
  else
    String.ofList (body.toList.take most) ++ "\n\n... [" ++ toString (body.length - most) ++
      " more chars]\n"

def unlines (lines : List String) : String := String.join (lines.map fun l => l ++ "\n")

def runNode (e : Engine Unit) (node : Except String Node) (input : Option String) (page : UInt32)
    (maxBody : Nat) : Act Unit (Except Failure String) := do
  match node with
  | .error reason => return .error ⟨reason, []⟩
  | .ok n => return .ok (shownBody (← e.getData n input page).text maxBody)

def orElse (n : Option Node) (reason : String) : Except String Node :=
  match n with
  | some n => .ok n
  | none => .error reason

def answer (e : Engine Unit) : Command → Act Unit (Except Failure String)
  | .info _ json => return .ok (if json then e.toJson.pretty ++ "\n" else unlines e.overview)
  | .find _ url redirect =>
    match e.findNode? url redirect with
    | some n => return .ok (n.described ++ "\n")
    | none => return .ok ("❌ No node matches " ++ url ++ "\n")
  | .get _ url page redirect maxBody =>
    let node := orElse (e.findNode? url redirect)
      ("no node of '" ++ e.info.title ++ "' matches " ++ url)
    runNode e node (some url) page maxBody
  | .entry _ index input page maxBody =>
    let node := orElse e.nodes.entries[index]?
      ("entry index " ++ toString index ++ " out of range (" ++
        toString e.nodes.entries.length ++ " entries)")
    runNode e node input page maxBody
  | .search _ query page maxBody =>
    let node := orElse e.search? ("plugin '" ++ e.info.title ++ "' has no search node")
    runNode e node (some query) page maxBody
  | .call _ link => do return .ok (shownBody (← e.processResponse link).text 0)

def Command.run (c : Command) (files : Files) : Except Failure String := do
  let source ← readPlugin files c.plugin
  let config ← readConfig files
  checkTransport config.http
  let (engine, session) ← (settled (Engine.load host config.limits source) (Session.initial ()))
    |>.mapError (Failure.under ("cannot load plugin " ++ c.plugin))
  (← settled (answer engine c) session).1

def Command.outcome (c : Command) (files : Files) : Outcome :=
  match c.run files with
  | .ok text => .printed text
  | .error f => .failed f

def Refusal.outcome : Refusal → Outcome
  | help text => .printed text
  | version => .printed versionText
  | misuse m => .misused m

end CommandLine

end ContentSource
