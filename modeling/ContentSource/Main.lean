import ContentSource.CommandLine.Run

/-! # The program

Reads the arguments, the plugin file and the configuration file, and prints what comes of them.
-/
namespace ContentSource.CommandLine

def readFile (path : String) : IO FileText := do
  try
    match String.fromUTF8? (← IO.FS.readBinFile path) with
    | some s => return .text s
    | none => return .unreadable "stream did not contain valid UTF-8"
  catch
    | .noFileOrDirectory _ _ _ => return .missing
    | e => return .unreadable (toString e)

/-- The directory of configurations: an absolute one that is stated, or the usual one at home. -/
def configDirectory : IO String := do
  match ← IO.getEnv "XDG_CONFIG_HOME" with
  | some d => if d.startsWith "/" then return d else usual
  | none => usual
where
  usual : IO String := do
    match ← IO.getEnv "HOME" with
    | some home => return home ++ "/.config"
    | none => return "."

def findFiles (c : Command) : IO Files := do
  let configPath := (← configDirectory) ++ "/" ++ Config.program ++ "/config.toml"
  return ⟨← readFile c.plugin, ← readFile configPath, configPath⟩

def outcome (args : List String) : IO Outcome := do
  match Command.read args with
  | .ok c => return c.outcome (← findFiles c)
  | .error r => return r.outcome

end ContentSource.CommandLine

def main (args : List String) : IO UInt32 := do
  let o ← ContentSource.CommandLine.outcome args
  IO.print o.output
  IO.eprint o.complaint
  return UInt32.ofNat o.exitCode
