import ContentSource.Error
import ContentSource.Response

/-! # Events

What the host of a plugin gets to see, in the order in which it happens: every call of the
transport, every line that a script prints, and every error that is reported.
-/
namespace ContentSource

inductive Event where
  | fetch (url : String) (request : Request)
  | log (message plugin : String)
  | error (error : PluginError) (plugin : String)
deriving DecidableEq

end ContentSource
