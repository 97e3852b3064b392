import ContentSource.Proofs.Engine.Loading

/-! # Every error is reported once

An action reports under a name when it reports nothing if it succeeds and, if it fails, reports its
error once, under that name and at its very end. Each effect does so; actions put together from such
actions do so too, since only the last of them can have failed.
-/
namespace ContentSource

open Script (Told)

variable {σ α β : Type}

/-- Whether an event reports the failure of a call of the library. Errors about scripts that a
script has asked for are not such reports. -/
def Event.isReport : Event → Bool
  | .error e _ => !e.isAboutScript
  | _ => false

def Silent (seen : List Event) : Prop := ∀ v ∈ seen, v.isReport = false

/-- What is seen of a call: no report if it succeeds, else its error as the one and last report. -/
def Reported (plugin : String) (out : Except PluginError α) (seen : List Event) : Prop :=
  match out with
  | .ok _ => Silent seen
  | .error e => e.isAboutScript = false ∧ ∃ before, Silent before ∧ seen = before ++ [.error e plugin]

theorem Silent.nil : Silent [] := by simp [Silent]

theorem Silent.append {seen more : List Event} (h : Silent seen) (hmore : Silent more) :
    Silent (seen ++ more) := by
  intro v hv
  rcases List.mem_append.mp hv with hv | hv
  · exact h v hv
  · exact hmore v hv

theorem Silent.of_told {plugin : String} {request : Request} {seen : List Event}
    (h : ∀ v ∈ seen, Told plugin request v) : Silent seen := by
  intro v hv
  have hv := h v hv
  cases v with
  | fetch | log => rfl
  | error e p => simp [Event.isReport, hv.2]

theorem silent_fetch (url : String) (r : Request) : Silent [.fetch url r] := by
  simp [Silent, Event.isReport]

theorem Silent.append_reported {plugin : String} {out : Except PluginError α}
    {seen more : List Event} (h : Silent seen) (hmore : Reported plugin out more) :
    Reported plugin out (seen ++ more) := by
  cases out with
  | ok a => exact h.append hmore
  | error e =>
    obtain ⟨he, before, hbefore, rfl⟩ := hmore
    exact ⟨he, seen ++ before, h.append hbefore, by rw [List.append_assoc]⟩

def Act.Reports (plugin : String) (x : Act σ α) : Prop :=
  ∀ ⦃s out t⦄, x s = some (out, t) → ∃ seen, t.trace = s.trace ++ seen ∧ Reported plugin out seen

namespace Act

variable {plugin : String}

theorem Reports.pure (a : α) : Reports plugin (pure a : Act σ α) := by
  intro s out t h
  cases h
  exact ⟨[], by simp, Silent.nil⟩

theorem Reports.bind {x : Act σ α} {f : α → Act σ β} (hx : x.Reports plugin)
    (hf : ∀ a, (f a).Reports plugin) : Reports plugin (x >>= f) := by
  intro s out t h
  rcases bind_eq_some h with ⟨e, rfl, hxe⟩ | ⟨a, u, hxa, hfa⟩
  · exact hx hxe
  · obtain ⟨seen, hseen, hsilent⟩ := hx hxa
    obtain ⟨more, hmore, hreported⟩ := hf a hfa
    exact ⟨seen ++ more, by rw [hmore, hseen, List.append_assoc],
      Silent.append_reported hsilent hreported⟩

/-- All rounds of a repetition but the last have succeeded, so nothing has been reported yet. -/
theorem Repeats.silent {step : α → Act σ (α ⊕ β)} (hstep : ∀ a, (step a).Reports plugin)
    {a b : α} {s t : Session σ} {i : Nat} (h : Repeats step a s i b t) :
    ∃ seen, t.trace = s.trace ++ seen ∧ Silent seen := by
  induction h with
  | zero => exact ⟨[], by simp, Silent.nil⟩
  | succ _ hlast ih =>
    obtain ⟨seen, hseen, hsilent⟩ := ih
    obtain ⟨more, hmore, hreported⟩ := hstep _ hlast
    exact ⟨seen ++ more, by rw [hmore, hseen, List.append_assoc], hsilent.append hreported⟩

theorem Reports.repeatUntil {step : α → Act σ (α ⊕ β)} (hstep : ∀ a, (step a).Reports plugin)
    (a : α) : Reports plugin (Act.repeatUntil step a) := by
  intro s out t h
  obtain ⟨i, b, u, hrounds, hlast⟩ := repeatUntil_eq_some h
  obtain ⟨seen, hseen, hsilent⟩ := hrounds.silent hstep
  obtain ⟨more, hmore, hreported⟩ := hstep b hlast
  refine ⟨seen ++ more, by rw [hmore, hseen, List.append_assoc], hsilent.append_reported ?_⟩
  cases out with
  | ok => exact hreported
  | error => exact hreported

theorem Reports.failed {e : PluginError} (he : e.isAboutScript = false) :
    Reports plugin (logged plugin (fail e : Act σ α)) := by
  intro s out t h
  have herror : (fail e : Act σ α) s = some (.error e, s) := rfl
  rw [logged_of_error herror] at h
  cases h
  exact ⟨[.error e plugin], by simp, he, [], Silent.nil, rfl⟩

/-- Running a script is reported, whatever the script itself has told. -/
theorem Scripted.reported {request : Request} {P : PluginError → Prop} {s t : Session σ}
    {out : Except PluginError α} (hP : ∀ e, P e → e.isAboutScript = false)
    (h : Scripted plugin request P s out t) :
    ∃ seen, t.trace = s.trace ++ seen ∧ Reported plugin out seen := by
  cases h with
  | released => exact ⟨[.error .released plugin], by simp, rfl, [], Silent.nil, rfl⟩
  | @done _ _ told _ _ ht hall => exact ⟨told, ht, Silent.of_told hall⟩
  | @failed e u told _ _ hu hall he =>
    exact ⟨told ++ [.error e plugin], by simp [hu], hP e he, told, Silent.of_told hall, rfl⟩

end Act

namespace Engine

variable (e : Engine σ)

theorem fetch_reports (url : String) (r : Request) : (e.fetch url r).Reports e.info.title := by
  intro s out t h
  cases fetch_eq_some_iff.mp h with
  | literal => exact ⟨[], by simp, Silent.nil⟩
  | answered => exact ⟨[.fetch url r], by simp, silent_fetch url r⟩
  | @failed f =>
    exact ⟨[.fetch url r] ++ [.error (.fetch url f) e.info.title], by simp, rfl, _,
      silent_fetch url r, rfl⟩

theorem invoke_reports (hook : String) (response : Response) :
    (e.bridge.invoke hook response).Reports e.info.title := by
  intro s out t h
  exact (invoke_eq_some h).reported fun _ he => he.not_isAboutScript

theorem perform_reports (x : Effect) : (e.perform x).Reports e.info.title := by
  cases x with
  | fetch url r => exact e.fetch_reports url r
  | invoke hook response => exact e.invoke_reports hook response

end Engine

namespace Pipeline

variable {plugin : String} {perform : Effect → Act σ Response}

theorem answerCall_reports (hperform : ∀ x, (perform x).Reports plugin) (hook : String)
    (r : Response) : (answerCall perform hook r).Reports plugin := by
  unfold answerCall
  cases linkPayload? Link.call r.text with
  | none => exact .pure _
  | some target => exact (hperform _).bind fun fetched => (hperform _).bind fun next => .pure _

theorem source_reports (hperform : ∀ x, (perform x).Reports plugin) (n : Node) (initial : Request)
    (url : String) : (source perform n initial url).Reports plugin := by
  unfold source
  cases n.request with
  | none => exact hperform _
  | some hook =>
    refine (hperform _).bind fun first => ?_
    refine (Act.Reports.repeatUntil (answerCall_reports hperform hook) first).bind fun last => ?_
    cases n.isRedirect with
    | true => exact .pure last
    | false => exact hperform _

theorem run_reports (hperform : ∀ x, (perform x).Reports plugin) (n : Node) (initial : Request)
    (url : String) : (run perform n initial url).Reports plugin := by
  refine (source_reports hperform n initial url).bind fun r => ?_
  cases n.parse with
  | none => exact .pure r
  | some hook => exact hperform _

end Pipeline

namespace Engine

variable (e : Engine σ)

theorem getData_reports (n : Node) (input : Option String) (page : UInt32) :
    (e.getData n input page).Reports e.info.title :=
  Pipeline.run_reports e.perform_reports n _ _

theorem processResponse_reports (link : String) :
    (e.processResponse link).Reports e.info.title := by
  unfold processResponse
  cases Link.parse? link with
  | none => exact .failed rfl
  | some l => exact e.getData_reports _ _ _

theorem processData_reports (link : String) : (e.processData link).Reports e.info.title :=
  (e.processResponse_reports link).bind fun _ => .pure _

theorem load_reports (host : Host σ) (limits : Script.Limits) (source : String) :
    (load host limits source).Reports (loadName source) := by
  intro s out t h
  cases load_eq_some h with
  | @unreadable err hd =>
    have herr : err.isAboutScript = false := by
      rcases parse_error_kind hd with rfl | ⟨cause, rfl⟩ <;> rfl
    simp only [loadName, hd]
    exact ⟨[.error err unknownPlugin], by simp, herr, [], Silent.nil, rfl⟩
  | @badCharset d cause hd =>
    simp only [loadName, hd]
    exact ⟨[.error (.parse cause) d.info.title], by simp, rfl, [], Silent.nil, rfl⟩
  | @started d initial ran t hd _ hran =>
    simp only [loadName, hd]
    obtain ⟨seen, hseen, hreported⟩ := hran.reported (by rintro e ⟨cause, rfl⟩; rfl)
    refine ⟨seen, hseen, ?_⟩
    cases ran with
    | ok => exact hreported
    | error => exact hreported

/-- If loading a plugin, running a pipeline or following a link fails, its error is reported once, at
the very end, under the title of the plugin, or as that of an unknown plugin when the document
cannot be read; if it succeeds, there is no report. -/
theorem calls_report_once (host : Host σ) (limits : Script.Limits) (source : String)
    (e : Engine σ) (n : Node) (input : Option String) (page : UInt32) (link : String) :
    (load host limits source).Reports (loadName source) ∧
      (e.getData n input page).Reports e.info.title ∧
      (e.processData link).Reports e.info.title ∧
      (e.processResponse link).Reports e.info.title :=
  ⟨load_reports host limits source, e.getData_reports n input page, e.processData_reports link,
    e.processResponse_reports link⟩

end Engine

end ContentSource
