import ContentSource.Link
import ContentSource.Plugin.Node
import ContentSource.Session
import ContentSource.Template

/-! # The pipeline of a node

How a node yields its content, in terms of two effects: fetching a link with a request, and calling
a hook on a response. The request hook is called again on whatever its `CALL` links name until it
gives something else, which is then fetched; a redirect node takes it as the content itself. At last
the parse hook sees the result. A hook that gives `CALL` links for ever keeps a pipeline going for
ever.
-/
namespace ContentSource

inductive Effect where
  | fetch (url : String) (request : Request)
  | invoke (hook : String) (response : Response)
deriving DecidableEq

namespace Pipeline

/-- The address that a node works on: its own, else the input, else the empty literal. -/
def workingUrl (n : Node) (initial : Request) (input : Option String) (page : UInt32) : String :=
  Template.expand ((n.url.or input).getD "NULL::") initial.charset input page

variable {σ : Type} (perform : Effect → Act σ Response)

/-- Answers a `CALL` link that a hook has given: fetches what it names and calls the hook again. -/
def answerCall (hook : String) (r : Response) : Act σ (Response ⊕ Response) :=
  match linkPayload? Link.call r.text with
  | none => return .inr r
  | some target => do
    let fetched ← perform (.fetch target r.request)
    return .inl (← perform (.invoke hook fetched))

/-- What the parse hook is to see. -/
def source (n : Node) (initial : Request) (url : String) : Act σ Response :=
  match n.request with
  | none => perform (.fetch url initial)
  | some hook => do
    let first ← perform (.invoke hook ⟨[], initial, url⟩)
    let last ← Act.repeatUntil (answerCall perform hook) first
    if n.isRedirect then return last else perform (.fetch last.text last.request)

def run (n : Node) (initial : Request) (url : String) : Act σ Response := do
  let result ← source perform n initial url
  match n.parse with
  | none => return result
  | some hook => perform (.invoke hook result)

end Pipeline

end ContentSource
