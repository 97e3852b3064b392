import ContentSource.Script.JsonText
import ContentSource.Script.Report

/-! # Calls of the host

A script reaches its host by printing, by asking for another script, and by the functions that the
host offers. Another script is fetched with the request of the plugin and run at once; if that
fails, the failure is reported and thrown.
-/
namespace ContentSource.Script

open Text (Units)

namespace Run

variable {σ : Type}

def throwMessage {α : Type} (message : String) : Run σ α := do
  let r ← allocate ⟨some (errorProto .error), .error,
    #[(Key.ofString "message", .ofValue (.text message))], true⟩
  throwValue (.object r)

/-- Reports an error about another script and throws it as well. -/
def logAndThrow {α : Type} (e : PluginError) (h : e.isAboutScript = true) : Run σ α := do
  logError e h
  throwMessage e.message

def brokenText (bytes : Nat) : String :=
  "Conversion from string failed: invalid utf-8 sequence of 1 bytes from index " ++ toString bytes

def hostText (v : Value) : Run σ String := do
  match (← toText v).toString with
  | .ok s => return s
  | .error n => typeError (brokenText n)

def print (args : List Value) : Run σ Value := do
  match args with
  | [] => return .undefined
  | v :: _ =>
    let message ← hostText v
    logLine message
    return .undefined

/-- Runs a script and says what went wrong, if something did. -/
def loadText (source : String) : Run σ (Option String) := do
  match ← attempt (load source) with
  | .ok _ => return none
  | .error v => return some (← brief v)

def require (args : List Value) : Run σ Value := do
  match args with
  | [] => logAndThrow (.scriptInvoke .missingArgument) rfl
  | v :: _ =>
    let url ← hostText v
    let reason ←
      match ← transport url with
      | .ok response => loadText response.text
      | .error failure => pure (some failure.chain)
    match reason with
    | none => return .undefined
    | some reason => logAndThrow (.scriptInvoke (.notLoaded url reason)) rfl

def hostCall (name : String) (args : List Value) : Run σ Value := do
  match (← read).host.functions.get? name with
  | none => return .undefined
  | some f =>
    let values ← args.mapM toJson
    let answer ← change fun m =>
      let (answer, s) := f values m.host
      (answer, { m with host := s })
    match answer with
    | .ok (some j) => ofJson j
    | .ok none => return .undefined
    | .error failure => throwMessage failure.chain

end Run

end ContentSource.Script
