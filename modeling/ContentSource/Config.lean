import ContentSource.Script.Machine
import ContentSource.Toml.Reader

/-! # Configuration

The limits of scripts and the settings of the transport, as a TOML document gives them. Everything
may be left out and unknown names do not count. A section is a table, or an array of its values in
order.
-/
namespace ContentSource

structure HttpConfig where
  userAgent : String
  timeoutSecs : Nat
  connectTimeoutSecs : Nat
  maxRedirects : Nat
deriving DecidableEq, Repr

structure Config where
  limits : Script.Limits
  http : HttpConfig
deriving DecidableEq, Repr

namespace Config

def program : String := "srcplug"

def version : String := "0.1.0"

def default : Config :=
  ⟨⟨32 * 1024 * 1024, 1024 * 1024⟩, ⟨program ++ "/" ++ version, 30, 10, 10⟩⟩

/-- The values of a section by the names of its fields; those that are left out are missing. -/
def section? (names : List String) : Option Toml → Option (List (Option Toml))
  | none | some .dateTime => some (names.map fun _ => none)
  | some (.table _ es) | some (.inlineTable es) => some (names.map (Toml.find? es))
  | some (.array items) => some (names.zipIdx.map fun n => items[n.2]?)
  | some (.tables items) => some (names.zipIdx.map fun n => items[n.2]?.map (Toml.table .stated))
  | some _ => none

def natural? (missing : Nat) : Option Toml → Option Nat
  | none => some missing
  | some (.integer n) => if n < 0 then none else some n.toNat
  | some _ => none

def text? (missing : String) : Option Toml → Option String
  | none => some missing
  | some (.string s) => some s
  | some _ => none

def limits? (v : Option Toml) : Option Script.Limits := do
  let d := default.limits
  match ← section? ["memory_limit", "max_stack_size"] v with
  | [memory, stack] => return ⟨← natural? d.memory memory, ← natural? d.stack stack⟩
  | _ => none

def http? (v : Option Toml) : Option HttpConfig := do
  let d := default.http
  match ← section? ["user_agent", "timeout_secs", "connect_timeout_secs", "max_redirects"] v with
  | [agent, timeout, connect, redirects] =>
    return ⟨← text? d.userAgent agent, ← natural? d.timeoutSecs timeout,
      ← natural? d.connectTimeoutSecs connect, ← natural? d.maxRedirects redirects⟩
  | _ => none

def parse? (source : String) : Option Config := do
  let es ← Toml.parse? source
  return ⟨← limits? (Toml.find? es "script"), ← http? (Toml.find? es "http")⟩

end Config

end ContentSource
