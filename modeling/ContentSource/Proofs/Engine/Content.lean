import ContentSource.Proofs.Engine.Reports
import ContentSource.Proofs.Pipeline.Exact

/-! # How content is obtained

The content of a node comes from its chain of effects, performed by the engine in the session, and
from nothing else. Obtaining it keeps the machine of the script.
-/
namespace ContentSource

variable {σ α : Type}

theorem Act.Reports.appends {plugin : String} {x : Act σ α} (hx : x.Reports plugin) :
    x.Appends := by
  intro s out t h
  obtain ⟨seen, hseen, -⟩ := hx h
  exact ⟨seen, hseen⟩

namespace Engine

variable (e : Engine σ)

theorem perform_appends (x : Effect) : (e.perform x).Appends := (e.perform_reports x).appends

def workingUrl (n : Node) (input : Option String) (page : UInt32) : String :=
  Pipeline.workingUrl n e.initial input page

/-- Deeds that the pipeline of a node has done from a session to another, though perhaps not all. -/
def Follows (n : Node) (input : Option String) (page : UInt32) (s : Session σ) (ds : List Deed)
    (t : Session σ) : Prop :=
  Chain e.perform s ds t ∧ Pipeline.AllDue e.initial (e.workingUrl n input page) n ds

section Chains

variable {e} {n : Node} {input : Option String} {page : UInt32} {s t : Session σ}
  {out : Except PluginError Response}

theorem getData_eq_some_iff : e.getData n input page s = some (out, t) ↔
    ∃ ds, Chain e.perform s ds t ∧
      Pipeline.Ends e.initial (e.workingUrl n input page) n ds out :=
  Pipeline.run_eq_some_iff e.perform_appends

theorem getData_follows (h : e.getData n input page s = some (out, t)) :
    ∃ ds, e.Follows n input page s ds t := by
  obtain ⟨ds, hchain, hends⟩ := getData_eq_some_iff.mp h
  exact ⟨ds, hchain, hends.allDue⟩

end Chains

/-- The content of a node is what its chain of effects ends with. The first error in the chain is
its last deed and the outcome. Only an effect that does not come to an end, or a request hook that
gives `CALL` links for ever, keep it from coming to an end. -/
theorem getData_is_chain (n : Node) (input : Option String) (page : UInt32) (s : Session σ) :
    (∀ out t, e.getData n input page s = some (out, t) ↔
      ∃ ds, Chain e.perform s ds t ∧
        Pipeline.Ends e.initial (e.workingUrl n input page) n ds out) ∧
    (∀ ds out, Pipeline.Ends e.initial (e.workingUrl n input page) n ds out →
      ∀ before d after err, ds = before ++ d :: after → d.answer = .error err →
        after = [] ∧ out = .error err) ∧
    (e.getData n input page s = none ↔
      (∃ ds x t, Chain e.perform s ds t ∧
        Pipeline.Due e.initial (e.workingUrl n input page) n ds x ∧ e.perform x t = none) ∨
      ∃ hook, n.request = some hook ∧ ∀ i, ∃ ds r t, Chain e.perform s ds t ∧
        Pipeline.HookGave e.initial (e.workingUrl n input page) hook i ds r ∧
        (linkPayload? Link.call r.text).isSome) := by
  refine ⟨fun out t => ?_, fun ds out hends before d after err => ?_, ?_⟩
  · exact getData_eq_some_iff
  · exact hends.first_error
  · exact Pipeline.run_eq_none_iff e.perform_appends

end Engine

end ContentSource
