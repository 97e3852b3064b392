import ContentSource.Config
import ContentSource.Text.Numeral

/-! # Commands and how they are written

Each command takes values in order and switches in any place. From this description come both the
help texts and the reading of arguments.
-/
namespace ContentSource.CommandLine

inductive ValueKind where
  /-- A path, which is not empty. -/
  | path
  | text
  /-- A natural number below 2^64. -/
  | count
  /-- A natural number below 2^32, perhaps with a sign before it. -/
  | page
deriving DecidableEq, Repr

structure Operand where
  name : String
  kind : ValueKind
  about : String
deriving DecidableEq, Repr

structure Switch where
  name : String
  letter : Option Char
  value : Option ValueKind
  missing : Option String
  about : String
deriving DecidableEq, Repr

structure Usage where
  name : String
  about : String
  operands : List Operand
  switches : List Switch
deriving DecidableEq, Repr

inductive Verb where
  | info | find | get | entry | search | call
deriving DecidableEq, Repr

def pluginOperand : Operand := ⟨"PLUGIN", .path, "Plugin XML file"⟩

def redirectSwitch : Switch :=
  ⟨"redirect", some 'r', none, none, "Fall back to the redirect node when no view matches"⟩

def pageSwitch : Switch :=
  ⟨"page", some 'p', some .page, some "1", "Page number substituted for %page"⟩

def maxBodySwitch : Switch :=
  ⟨"max-body", none, some .count, some "0", "Maximum characters to print (0 = unlimited)"⟩

def jsonSwitch : Switch := ⟨"json", none, none, none, "Print as JSON"⟩

def inputSwitch : Switch :=
  ⟨"input", some 'i', some .text, none, "Value substituted for %input"⟩

def Verb.usage : Verb → Usage
  | .info => ⟨"info", "Show plugin metadata and node summary", [pluginOperand], [jsonSwitch]⟩
  | .find =>
    ⟨"find", "Show which node a URL resolves to", [pluginOperand, ⟨"URL", .text, "URL to match"⟩],
      [redirectSwitch]⟩
  | .get =>
    ⟨"get", "Resolve a URL and print the content",
      [pluginOperand, ⟨"URL", .text, "URL to resolve"⟩], [pageSwitch, redirectSwitch, maxBodySwitch]⟩
  | .entry =>
    ⟨"entry", "Run an entry node",
      [pluginOperand, ⟨"INDEX", .count, "Entry index, as listed by \x60info\x60"⟩],
      [inputSwitch, pageSwitch, maxBodySwitch]⟩
  | .search =>
    ⟨"search", "Run the search node", [pluginOperand, ⟨"QUERY", .text, "Search query"⟩],
      [pageSwitch, maxBodySwitch]⟩
  | .call =>
    ⟨"call", "Run a TYPE::payload link through the script",
      [pluginOperand, ⟨"LINK", .text, "Colon link, e.g. \x60decode::abc\x60"⟩], []⟩

/-- All commands in the order in which they are listed. -/
def Verb.all : List Verb := [.info, .find, .get, .entry, .search, .call]

def Verb.ofName? (name : String) : Option Verb := Verb.all.find? fun v => v.usage.name == name

def Switch.placeholder (s : Switch) : String :=
  "<" ++ String.ofList (s.name.toList.map fun c => if c = '-' then '_' else c.toUpper) ++ ">"

def Switch.shown (s : Switch) : String :=
  "--" ++ s.name ++ if s.value.isSome then " " ++ s.placeholder else ""

/-! Help texts. -/

def Switch.row (s : Switch) : String × String :=
  let letter :=
    match s.letter with
    | some c => "-" ++ c.toString ++ ", "
    | none => "    "
  (letter ++ s.shown, s.about ++ ((s.missing.map fun d => " [default: " ++ d ++ "]").getD ""))

def Operand.shown (o : Operand) : String := "<" ++ o.name ++ ">"

def helpRow : String × String := ("-h, --help", "Print help")

def helpCommand : String × String :=
  ("help", "Print this message or the help of the given subcommand(s)")

def titled (title : String) (rows : List (String × String)) : String :=
  let width := (rows.map fun r => r.1.length).foldl max 0
  title ++ ":" ++ String.join (rows.map fun r =>
    "\n  " ++ r.1 ++ "".pushn ' ' (width - r.1.length) ++ "  " ++ r.2)

def Usage.line (u : Usage) : String :=
  let options := if u.switches.isEmpty then [] else ["[OPTIONS]"]
  " ".intercalate ([Config.program, u.name] ++ options ++ u.operands.map Operand.shown)

def paragraphs (ps : List String) : String := "\n\n".intercalate ps ++ "\n"

def Usage.help (u : Usage) : String :=
  paragraphs [u.about, "Usage: " ++ u.line,
    titled "Arguments" (u.operands.map fun o => (o.shown, o.about)),
    titled "Options" (u.switches.map Switch.row ++ [helpRow])]

def programHelp : String :=
  paragraphs ["Run declarative content-source plugins", "Usage: " ++ Config.program ++ " <COMMAND>",
    titled "Commands" ((Verb.all.map fun v => (v.usage.name, v.usage.about)) ++ [helpCommand]),
    titled "Options" [helpRow, ("-V, --version", "Print version")]]

def helpOnHelp : String :=
  paragraphs [helpCommand.2, "Usage: " ++ Config.program ++ " help [COMMAND]...",
    titled "Arguments" [("[COMMAND]...", "Print help for the subcommand(s)")]]

def versionText : String := Config.program ++ " " ++ Config.version ++ "\n"

end ContentSource.CommandLine
