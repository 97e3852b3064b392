import ContentSource.Proofs.Engine.History

/-! # Errors and their causes

What an operation fails with says what has gone wrong. A pipeline fails as its last effect does: a
fetch with the address that the transport was called with, a hook with an error of the call or of
the request left behind, and either kind of hook call as released when the script is gone.
-/
namespace ContentSource

open Script.Run (HookError)

variable {σ : Type}

def PluginError.IsOfLoading (e : PluginError) : Prop :=
  e = .xml ∨ (∃ cause, e = .parse cause) ∨ ∃ cause, e = .scriptInit cause

def PluginError.IsOfContent (e : PluginError) : Prop :=
  (∃ url f, e = .fetch url f) ∨ (∃ cause, e = .scriptInvoke cause) ∨
    (∃ cause, e = .invalidResult cause) ∨ e = .released

namespace Engine

variable {e : Engine σ} {n : Node} {input : Option String} {page : UInt32} {s t u : Session σ}
  {x : Effect} {err : PluginError} {url : String} {f : Failure}

/-! ## Loading -/

theorem Loaded.error_kind {host : Host σ} {limits : Script.Limits} {source : String}
    (h : Loaded host limits source s (.error err) t) (hs : s.machine.isSome) :
    err.IsOfLoading := by
  generalize hout : (.error err : Except PluginError (Engine σ)) = out at h
  cases h with
  | unreadable hd =>
    cases hout
    rcases parse_error_kind hd with rfl | ⟨cause, rfl⟩
    · exact .inl rfl
    · exact .inr (.inl ⟨cause, rfl⟩)
  | badCharset =>
    cases hout
    exact .inr (.inl ⟨_, rfl⟩)
  | started _ _ hran =>
    cases hran with
    | released hgone => simp [hgone] at hs
    | done => cases hout
    | failed _ _ _ _ hcause =>
      cases hout
      exact .inr (.inr hcause)

/-! ## Pipelines -/

/-- A transport call of the pipeline that fails, and the session right after its report. -/
def FetchFails (e : Engine σ) (u : Session σ) (url : String) (r : Request) (f : Failure)
    (t : Session σ) : Prop :=
  linkPayload? Link.null url = none ∧ ∃ k,
    e.bridge.setting.host.request url r u.host = (.error f, k) ∧
      t = (u.fetched k url r).tell (.error (.fetch url f) e.info.title)

theorem perform_eq_error (h : e.perform x u = some (.error err, t)) :
    (∃ url r f, x = .fetch url r ∧ err = .fetch url f ∧ e.FetchFails u url r f t) ∨
      HookError err ∨ err = .released ∧ u.machine = none := by
  cases x with
  | fetch url r =>
    generalize hout : (.error err : Except PluginError Response) = out at h
    cases fetch_eq_some_iff.mp h with
    | literal | answered => cases hout
    | failed hnull hr =>
      cases hout
      exact .inl ⟨url, r, _, rfl, rfl, hnull, _, hr, rfl⟩
  | invoke hook given =>
    generalize hout : (.error err : Except PluginError Response) = out at h
    cases invoke_eq_some h with
    | done => cases hout
    | released hgone =>
      cases hout
      exact .inr (.inr ⟨rfl, hgone⟩)
    | failed _ _ _ _ herr =>
      cases hout
      exact .inr (.inl herr)

/-- A pipeline fails where an effect that is due fails. -/
theorem getData_eq_error_iff : e.getData n input page s = some (.error err, t) ↔
    ∃ ds x u, Chain e.perform s ds u ∧ Pipeline.Due e.initial (e.workingUrl n input page) n ds x ∧
      e.perform x u = some (.error err, t) := by
  rw [getData_eq_some_iff]
  constructor
  · rintro ⟨ds, hchain, hends⟩
    generalize hout : (.error err : Except PluginError Response) = out at hends
    cases hends with
    | plain | parsed => cases hout
    | failed hdue =>
      cases hout
      obtain ⟨u, hchain, hx, -⟩ := Chain.snoc_iff.mp hchain
      exact ⟨_, _, u, hchain, hdue, hx⟩
  · rintro ⟨ds, x, u, hchain, hdue, hx⟩
    obtain ⟨seen, hchain⟩ := hchain.extend e.perform_appends hx
    exact ⟨_, hchain, .failed hdue⟩

theorem getData_error_kind (h : e.getData n input page s = some (.error err, t)) :
    err.IsOfContent := by
  obtain ⟨ds, x, u, -, -, hx⟩ := getData_eq_error_iff.mp h
  rcases perform_eq_error hx with ⟨url, r, f, -, rfl, -⟩ | herr | ⟨rfl, -⟩
  · exact .inl ⟨url, f, rfl⟩
  · rcases herr with ⟨cause, rfl, -⟩ | ⟨cause, rfl⟩
    · exact .inr (.inl ⟨cause, rfl⟩)
    · exact .inr (.inr (.inl ⟨cause, rfl⟩))
  · exact .inr (.inr (.inr rfl))

theorem getData_eq_fetch_error_iff :
    e.getData n input page s = some (.error (.fetch url f), t) ↔
      ∃ ds r u, Chain e.perform s ds u ∧
        Pipeline.Due e.initial (e.workingUrl n input page) n ds (.fetch url r) ∧
        e.FetchFails u url r f t := by
  rw [getData_eq_error_iff]
  constructor
  · rintro ⟨ds, x, u, hchain, hdue, hx⟩
    rcases perform_eq_error hx with ⟨url, r, f, rfl, herr, hfails⟩ | herr | ⟨herr, -⟩
    · cases herr
      exact ⟨ds, r, u, hchain, hdue, hfails⟩
    · rcases herr with ⟨cause, hcause, -⟩ | ⟨cause, hcause⟩ <;> cases hcause
    · cases herr
  · rintro ⟨ds, r, u, hchain, hdue, hnull, k, hr, rfl⟩
    exact ⟨ds, _, u, hchain, hdue, fetch_of_failure hnull hr⟩

/-- Only a script that is gone makes a pipeline fail as released. -/
theorem getData_released (h : e.getData n input page s = some (.error .released, t)) :
    s.machine = none := by
  obtain ⟨ds, x, u, hchain, -, hx⟩ := getData_eq_error_iff.mp h
  rcases perform_eq_error hx with ⟨url, r, f, -, herr, -⟩ | herr | ⟨-, hgone⟩
  · cases herr
  · rcases herr with ⟨cause, hcause, -⟩ | ⟨cause, hcause⟩ <;> cases hcause
  · have hkept := chain_machine hchain
    rw [hgone] at hkept
    simpa using hkept.symm

/-! ## Links -/

theorem processResponse_parse_error_iff {link : String} :
    (∃ cause t, e.processResponse link s = some (.error (.parse cause), t)) ↔
      Link.parse? link = none := by
  constructor
  · rintro ⟨cause, t, h⟩
    cases hl : Link.parse? link with
    | none => rfl
    | some l =>
      rw [processResponse_of_link hl] at h
      rcases getData_error_kind h with ⟨url, f, herr⟩ | ⟨c, herr⟩ | ⟨c, herr⟩ | herr <;> cases herr
  · intro hl
    exact ⟨_, _, processResponse_of_no_link hl⟩

theorem processData_of_error {link : String} (h : e.processResponse link s = some (.error err, t)) :
    e.processData link s = some (.error err, t) :=
  Act.bind_of_error h

theorem processData_parse_error_iff {link : String} :
    (∃ cause t, e.processData link s = some (.error (.parse cause), t)) ↔
      Link.parse? link = none := by
  rw [← processResponse_parse_error_iff (e := e) (s := s)]
  constructor
  · rintro ⟨cause, t, h⟩
    obtain ⟨got, hgot, hout⟩ := Operation.bind_pure_eq_some h
    cases got with
    | ok => cases hout
    | error err =>
      cases hout
      exact ⟨cause, t, hgot⟩
  · rintro ⟨cause, t, h⟩
    exact ⟨cause, t, processData_of_error h⟩

end Engine

theorem Operation.Ended.released_machine {e : Engine σ} {op : Operation} {s t : Session σ}
    (h : Ended e s op (.error .released) t) : s.machine = none := by
  generalize hout : (.error .released : Except PluginError Answer) = out at h
  cases h with
  | found | noLink | released => cases hout
  | @obtained _ _ _ _ got _ f _ hgot =>
    cases got with
    | ok => cases hout
    | error err =>
      cases hout
      exact Engine.getData_released hgot

namespace InUse

/-- What a call fails with names its cause. Loading fails over the document, the charset or the
script. A pipeline fails over a fetch, a hook or a released script: over a fetch exactly when its
transport call for that address fails, and then it does nothing more. Following a link fails over
the link itself exactly when it is none, and then does nothing but report it. Nothing fails as
released before the script has been released. -/
theorem errors_name_causes (host : Host σ) (limits : Script.Limits) (source : String) (k : σ) :
    (∀ err s, Engine.load host limits source (Session.initial k) = some (.error err, s) →
      err.IsOfLoading) ∧
    (∀ (e : Engine σ) (n : Node) (input : Option String) (page : UInt32) (s : Session σ),
      (∀ err t, e.getData n input page s = some (.error err, t) → err.IsOfContent) ∧
      ∀ url f t, e.getData n input page s = some (.error (.fetch url f), t) ↔
        ∃ ds r u, Chain e.perform s ds u ∧
          Pipeline.Due e.initial (e.workingUrl n input page) n ds (.fetch url r) ∧
          e.FetchFails u url r f t) ∧
    (∀ (e : Engine σ) (link : String) (s : Session σ),
      ((∃ cause t, e.processResponse link s = some (.error (.parse cause), t)) ↔
        Link.parse? link = none) ∧
      ((∃ cause t, e.processData link s = some (.error (.parse cause), t)) ↔
        Link.parse? link = none) ∧
      (Link.parse? link = none →
        e.processResponse link s = some (.error (.parse (.notALink link)),
          s.tell (.error (.parse (.notALink link)) e.info.title)) ∧
        e.processData link s = some (.error (.parse (.notALink link)),
          s.tell (.error (.parse (.notALink link)) e.info.title)))) ∧
    ∀ e s, Engine.load host limits source (Session.initial k) = some (.ok e, s) →
      ∀ ops v, History ⟨e, s⟩ ops v →
        ∀ op w, v.step op = some (.error .released, w) → .release ∈ ops := by
  refine ⟨?_, fun e n input page s => ⟨?_, ?_⟩, fun e link s => ⟨?_, ?_, ?_⟩, ?_⟩
  · exact fun err s hload => (Engine.load_eq_some hload).error_kind rfl
  · exact fun err t => Engine.getData_error_kind
  · exact fun url f t => Engine.getData_eq_fetch_error_iff
  · exact Engine.processResponse_parse_error_iff
  · exact Engine.processData_parse_error_iff
  · intro hl
    have hresponse := Engine.processResponse_of_no_link (e := e) (s := s) hl
    exact ⟨hresponse, Engine.processData_of_error hresponse⟩
  · intro e s hload ops v hhistory op w hstep
    have hgone := (Operation.act_eq_some (step_eq_some hstep).2).released_machine
    exact hhistory.release_mem (Engine.load_eq_some hload).machine hgone

end InUse

end ContentSource
