import ContentSource.Proofs.Engine.History
import ContentSource.Proofs.Template.Unchanged

/-! # The address that an input gives

A node without an address of its own works on the input, which is expanded as a template whose input
it is itself. So the input reaches the transport or the request hook as it stands exactly when there
is no placeholder in it. The hook of a colon link gets the payload in the same way.
-/
namespace ContentSource

variable {σ : Type}

namespace Pipeline

def opening (n : Node) (initial : Request) (url : String) : Effect :=
  match n.request with
  | none => .fetch url initial
  | some hook => .invoke hook ⟨[], initial, url⟩

variable {n : Node} {initial : Request} {url hook : String}

theorem opening_of_no_hook (h : n.request = none) : opening n initial url = .fetch url initial := by
  simp only [opening, h]

theorem opening_of_hook (h : n.request = some hook) :
    opening n initial url = .invoke hook ⟨[], initial, url⟩ := by
  simp only [opening, h]

theorem due_opening (n : Node) (initial : Request) (url : String) :
    Due initial url n [] (opening n initial url) := by
  cases h : n.request with
  | none =>
    rw [opening_of_no_hook h]
    exact .url h
  | some hook =>
    rw [opening_of_hook h]
    exact .hook h

theorem HookGave.ne_nil {i : Nat} {ds : List Deed} {r : Response}
    (h : HookGave initial url hook i ds r) : ds ≠ [] := by
  cases h <;> simp

theorem Sourced.ne_nil {ds : List Deed} {r : Response} (h : Sourced initial url n ds r) :
    ds ≠ [] := by
  cases h with
  | fetched => simp
  | kept _ hgave => exact hgave.ne_nil
  | followed => simp

/-- Only one effect is due when nothing has been done yet. -/
theorem due_nil_iff {x : Effect} : Due initial url n [] x ↔ x = opening n initial url := by
  constructor
  · intro h
    generalize hds : ([] : List Deed) = ds at h
    cases h with
    | url hn => rw [opening_of_no_hook hn]
    | hook hn => rw [opening_of_hook hn]
    | call _ hgave => exact absurd hds.symm hgave.ne_nil
    | again => simp at hds
    | last _ hgave => exact absurd hds.symm hgave.ne_nil
    | parse _ hsourced => exact absurd hds.symm hsourced.ne_nil
  · rintro rfl
    exact due_opening n initial url

/-- Every pipeline is its opening with something behind it. -/
theorem exists_run_eq_opening_bind (perform : Effect → Act σ Response) (n : Node)
    (initial : Request) (url : String) :
    ∃ rest, run perform n initial url = perform (opening n initial url) >>= rest := by
  cases h : n.request with
  | none =>
    obtain ⟨rest, hrest⟩ := exists_run_eq_source_bind perform initial url n
    exact ⟨rest, by rw [hrest, source_of_no_hook h, opening_of_no_hook h]⟩
  | some hook =>
    obtain ⟨rest, hrest⟩ := exists_run_eq_rounds_bind perform initial url h
    exact ⟨_, by rw [hrest, rounds, bind_assoc, opening_of_hook h]⟩

end Pipeline

namespace Engine

variable (e : Engine σ)

/-- Obtaining the content of a node opens with an effect: it is that effect with something behind
it, and no other effect is due first. -/
structure Opens (n : Node) (input : Option String) (page : UInt32) (x : Effect) : Prop where
  begins : ∃ rest, e.getData n input page = e.perform x >>= rest
  due : ∀ y, Pipeline.Due e.initial (e.workingUrl n input page) n [] y ↔ y = x

theorem opens (n : Node) (input : Option String) (page : UInt32) :
    e.Opens n input page (Pipeline.opening n e.initial (e.workingUrl n input page)) where
  begins := Pipeline.exists_run_eq_opening_bind e.perform n e.initial _
  due _ := Pipeline.due_nil_iff

def inputUrl (input : String) (page : UInt32) : String :=
  Template.expand input e.initial.charset (some input) page

variable {e} in
theorem workingUrl_of_no_url {n : Node} (h : n.url = none) (input : String) (page : UInt32) :
    e.workingUrl n (some input) page = e.inputUrl input page := by
  rw [workingUrl, Pipeline.workingUrl, h]
  rfl

/-- A node without an address fetches the expanded input, or gives it to its request hook as the
location; and a colon link gives its hook the expanded payload. That is the input or the payload
itself exactly when there is no placeholder in it. -/
theorem input_is_expanded :
    (∀ (n : Node) (input : String) (page : UInt32), n.url = none →
      e.Opens n (some input) page (Pipeline.opening n e.initial (e.inputUrl input page))) ∧
    (∀ (link : String) (l : Link), Link.parse? link = some l →
      e.processResponse link = e.getData (Node.redirect l.type) (some l.payload) 1 ∧
      e.Opens (Node.redirect l.type) (some l.payload) 1
        (.invoke l.type ⟨[], e.initial, e.inputUrl l.payload 1⟩)) ∧
    ∀ (input : String) (page : UInt32), e.inputUrl input page = input ↔
      Template.IsLiteral input := by
  refine ⟨fun n input page hn => ?_, fun link l hl => ⟨?_, ?_⟩, fun input page => ?_⟩
  · have hopens := e.opens n (some input) page
    rwa [workingUrl_of_no_url hn] at hopens
  · exact processResponse_of_link hl
  · have hopens := e.opens (Node.redirect l.type) (some l.payload) 1
    rwa [workingUrl_of_no_url rfl, Pipeline.opening_of_hook rfl] at hopens
  · exact Template.expand_self_iff input e.initial.charset page

/-- A percent sign alone is no placeholder. -/
theorem greeter_gets_payload : ∃ (e : Engine Unit) (s : Session Unit),
    load Host.echoing ⟨0, 0⟩ greeter (Session.initial ()) = some (.ok e, s) ∧
      Link.parse? "greet::50% off" = some ⟨"greet", "50% off"⟩ ∧
      e.Opens (Node.redirect "greet") (some "50% off") 1
        (.invoke "greet" ⟨[], e.initial, "50% off"⟩) := by
  obtain ⟨e, s, hload⟩ := exists_of_loads greeter_loads
  have hlink : Link.parse? "greet::50% off" = some ⟨"greet", "50% off"⟩ := by decide
  obtain ⟨-, hlinks, hsame⟩ := e.input_is_expanded
  have hopens := (hlinks _ _ hlink).2
  rw [(hsame "50% off" 1).mpr (by decide)] at hopens
  exact ⟨e, s, hload, hlink, hopens⟩

/-- A payload may look like a template, and does not reach its hook then. -/
theorem payload_is_rewritten :
    ¬∀ (e : Engine Unit) (n : Node) (input : String) (page : UInt32), n.url = none →
      e.Opens n (some input) page (Pipeline.opening n e.initial input) := by
  intro hall
  obtain ⟨e, -, -⟩ := exists_of_loads greeter_loads
  have hclaimed := hall e (Node.redirect "greet") "50%page" 1 rfl
  have hopens := e.opens (Node.redirect "greet") (some "50%page") 1
  have hsame := (hclaimed.due _).mp ((hopens.due _).mpr rfl)
  rw [workingUrl_of_no_url rfl, Pipeline.opening_of_hook rfl, Pipeline.opening_of_hook rfl] at hsame
  have hurl : e.inputUrl "50%page" 1 = "50%page" := by
    simpa using hsame
  exact absurd ((Template.expand_self_iff "50%page" e.initial.charset 1).mp hurl) (by decide)

end Engine

end ContentSource
