import ContentSource.CacheTime
import ContentSource.Script.Kind

/-! # Errors

An error is one of seven kinds, and each kind records its cause. The text of an error is made from
the cause in one place, `PluginError.message`; nothing else in the library words an error of the
engine.
-/
namespace ContentSource

/-- Why a fetch or a host function failed: a summary and the causes under it. -/
structure Failure where
  summary : String
  causes : List String
deriving DecidableEq, Repr, Inhabited

def Failure.chain (f : Failure) : String := ": ".intercalate (f.summary :: f.causes)

/-- What is wrong with a plugin document or a link. An element is named by its opening tag. -/
inductive ParseError where
  | noMeta
  | noNodes
  | version (text : String)
  | sourcePattern (explanation : String)
  | unknownGroup (name : String)
  | missingType (element : String)
  | malformedType (text element : String)
  | missingTitle (element : String)
  | missingExpr (element : String)
  | exprPattern (explanation element : String)
  | cache (text : String) (refusal : CacheTime.Refusal) (element : Option String)
  | charset (label : String)
  | notALink (text : String)
deriving DecidableEq, Repr

inductive StartError where
  | noContext (explanation : String)
  | notInstalled (explanation : String)
  | scriptFailed (report : String)
deriving DecidableEq, Repr

inductive InvokeError where
  | unreadable (hook explanation : String)
  | notAFunction (hook : String) (kind : Script.Kind)
  | requestNotPassed (hook explanation : String)
  | failed (hook report : String)
  | notAString (hook : String) (kind : Script.Kind)
  | badString (hook explanation : String)
  | missingArgument
  | notLoaded (url reason : String)
deriving DecidableEq, Repr

/-- What is wrong with the request that a hook leaves behind. A place is a path inside it. -/
inductive ResultError where
  | unreadable (place explanation : String)
  | notAString (place : String) (kind : Script.Kind)
  | notAnObject (place : String) (kind : Script.Kind)
  | unknownCharset (label : String)
deriving DecidableEq, Repr

inductive PluginError where
  | parse (cause : ParseError)
  | xml
  | scriptInit (cause : StartError)
  | scriptInvoke (cause : InvokeError)
  | invalidResult (cause : ResultError)
  | fetch (url : String) (failure : Failure)
  | released
  | config (explanation : String)
deriving DecidableEq, Repr

/-- Whether an error is about another script that a script asked for. -/
def PluginError.isAboutScript : PluginError → Bool
  | scriptInvoke .missingArgument | scriptInvoke (.notLoaded ..) => true
  | _ => false

def ParseError.message : ParseError → String
  | noMeta => "plugin has no <meta> section"
  | noNodes => "plugin has no <nodes> section"
  | version text => "meta 'version' is not an integer: '" ++ text ++ "'"
  | sourcePattern e => "meta source 'expr' is not a valid regex: " ++ e
  | unknownGroup name => "unknown node collection name: '" ++ name ++ "'"
  | missingType el => "node is missing the 'type' attribute: " ++ el
  | malformedType text el => "node 'type' must be 'kind.view', got '" ++ text ++ "': " ++ el
  | missingTitle el => "entry node is missing the 'title' attribute: " ++ el
  | missingExpr el => "view node is missing the 'expr' attribute: " ++ el
  | exprPattern e el => "view 'expr' is not a valid regex (" ++ e ++ "): " ++ el
  | cache text refusal none => refusal.message text
  | cache text refusal (some el) => refusal.message text ++ ": " ++ el
  | charset label => "catch 'encoding' names an unknown or decode-only charset: '" ++ label ++ "'"
  | notALink text => "not a colon link: '" ++ text ++ "'"

def StartError.message : StartError → String
  | noContext e => "cannot create JS context: " ++ e
  | notInstalled e => "cannot register native callbacks: " ++ e
  | scriptFailed report => "script block failed, cannot initialize: " ++ report

def InvokeError.message : InvokeError → String
  | unreadable hook e => "cannot read '" ++ hook ++ "': " ++ e
  | notAFunction hook kind => "'" ++ hook ++ "' is not a function (found " ++ kind.name ++ ")"
  | requestNotPassed hook e => "cannot pass request to '" ++ hook ++ "': " ++ e
  | failed hook report => "'" ++ hook ++ "' failed: " ++ report
  | notAString hook kind => "'" ++ hook ++ "' returned " ++ kind.name ++ " instead of a string"
  | badString hook e => "'" ++ hook ++ "' result: " ++ e
  | missingArgument => "'require': 1 argument required, but only 0 present."
  | notLoaded url reason => "Can not load script '" ++ url ++ "': " ++ reason

def ResultError.message : ResultError → String
  | unreadable place e => "request." ++ place ++ ": " ++ e
  | notAString place kind => "request." ++ place ++ " is " ++ kind.name ++ ", not a string"
  | notAnObject place kind => "request." ++ place ++ " is " ++ kind.name ++ ", not an object"
  | unknownCharset label =>
    "request.encoding '" ++ label ++ "' is not a known charset that can encode text"

def notWellFormed : String := "the document is not well-formed"

def PluginError.message : PluginError → String
  | parse cause => "Parse error: " ++ cause.message
  | xml => "XML error: " ++ notWellFormed
  | scriptInit cause => "Script initialization failed: " ++ cause.message
  | scriptInvoke cause => "Script error: " ++ cause.message
  | invalidResult cause => "Invalid script result: " ++ cause.message
  | fetch url failure => "Fetch failed for '" ++ url ++ "': " ++ failure.summary
  | released => "Script runtime has been released"
  | config e => "Config error: " ++ e

def PluginError.failure (e : PluginError) : Failure :=
  match e with
  | xml => ⟨e.message, [notWellFormed]⟩
  | fetch _ failure => ⟨e.message, failure.summary :: failure.causes⟩
  | _ => ⟨e.message, []⟩

end ContentSource
