import ContentSource.Event
import ContentSource.Json.Basic
import ContentSource.Link

/-! # Hosts

A host gives a plugin its transport and functions for its script. Both may keep a state of their
own, of which nothing is known here, and both may fail. A `NULL` link is never given to the
transport: its payload is the body.
-/
namespace ContentSource

abbrev HostFunction (σ : Type) := List Json → σ → Except Failure (Option Json) × σ

structure Host (σ : Type) where
  request : String → Request → σ → Except Failure Response × σ
  functions : Fields (HostFunction σ)

namespace Host

variable {σ : Type}

/-- Fetches through the transport, and tells so. -/
def transport (h : Host σ) (url : String) (r : Request) (s : σ) :
    Except Failure Response × σ × List Event :=
  let (answer, s) := h.request url r s
  (answer, s, [.fetch url r])

def literal? (url : String) (r : Request) : Option Response :=
  (linkPayload? Link.null url).map fun payload => ⟨Text.Utf8.encode payload, r, url⟩

/-- Fetches a link: the payload of a `NULL` link itself, anything else through the transport. -/
def fetch (h : Host σ) (url : String) (r : Request) (s : σ) :
    Except Failure Response × σ × List Event :=
  match literal? url r with
  | some response => (.ok response, s, [])
  | none => h.transport url r s

end Host

end ContentSource
