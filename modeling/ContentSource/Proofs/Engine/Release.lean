import ContentSource.Proofs.Engine.Causes

/-! # After the release of a script

Once its script has been released, an engine still finds nodes and still fetches, but nothing of the
plugin runs any more. What an operation comes to then depends on the hooks of its node alone: a
request hook is refused before anything is fetched, a parse hook after the one fetch, and a node
without hooks is served as before. The host is reached through the transport only, and only by these
fetches.
-/
namespace ContentSource

variable {σ α : Type}

namespace Session

def withMachine (s : Session σ) (m : Option (Script.Machine σ)) : Session σ :=
  { s with machine := m }

theorem isReleased_iff {s : Session σ} : s.isReleased = true ↔ s.machine = none := by
  simp [isReleased]

end Session

theorem Act.logged_onMachine_of_released {g : Script.Setting σ}
    {y : Script.Run σ (Except PluginError α)} {s : Session σ} (h : s.machine = none) :
    logged g.plugin (onMachine g y) s =
      some (.error .released, s.tell (.error .released g.plugin)) := by
  refine Act.logged_of_error ?_
  simp only [onMachine, h]

namespace Engine

variable {e : Engine σ} {n : Node} {input : Option String} {page : UInt32} {hook link : String}
  {s t : Session σ} {got : Except PluginError Response}

theorem invoke_of_released (h : s.machine = none) (response : Response) :
    e.perform (.invoke hook response) s =
      some (.error .released, s.tell (.error .released e.info.title)) := by
  rw [← e.plugin_eq]
  exact Act.logged_onMachine_of_released h

theorem exists_fetched (e : Engine σ) (url : String) (r : Request) (s : Session σ) :
    ∃ got t, e.Fetched url r s got t := by
  cases hnull : linkPayload? Link.null url with
  | some payload => exact ⟨_, s, .literal hnull⟩
  | none =>
    rcases hr : e.bridge.setting.host.request url r s.host with ⟨f | a, k⟩
    · exact ⟨_, _, .failed hnull hr⟩
    · exact ⟨_, _, .answered hnull hr⟩

/-- No fetch depends on the machine. -/
theorem Fetched.withMachine {url : String} {r : Request} (h : e.Fetched url r s got t)
    (m : Option (Script.Machine σ)) : e.Fetched url r (s.withMachine m) got (t.withMachine m) := by
  cases h with
  | literal hnull => exact .literal hnull
  | answered hnull hr => exact .answered (s := s.withMachine m) hnull hr
  | failed hnull hr => exact .failed (s := s.withMachine m) hnull hr

/-- The one fetch of a node without hooks is all there is to its content. -/
theorem getData_of_no_hooks (hn : n.request = none) (hp : n.parse = none)
    (hgot : e.Fetched (e.workingUrl n input page) e.initial s got t) :
    e.getData n input page s = some (got, t) := by
  rw [getData, Pipeline.run_of_no_parse hp, Pipeline.source_of_no_hook hn]
  exact fetch_eq_some_iff.mpr hgot

theorem getData_of_parse_hook (hn : n.request = none) (hp : n.parse = some hook) :
    e.getData n input page = e.fetch (e.workingUrl n input page) e.initial >>= fun r =>
      e.perform (.invoke hook r) := by
  rw [getData, Pipeline.run_of_parse hp, Pipeline.source_of_no_hook hn]
  rfl

section Released

variable (h : s.machine = none)

include h

theorem getData_of_released_hook (hn : n.request = some hook) :
    e.getData n input page s = some (.error .released, s.tell (.error .released e.info.title)) := by
  obtain ⟨k, hk⟩ := Pipeline.exists_run_eq_rounds_bind e.perform e.initial
    (e.workingUrl n input page) hn
  change Pipeline.run e.perform n e.initial (e.workingUrl n input page) s = _
  rw [hk, Pipeline.rounds, bind_assoc, Act.bind_of_error (invoke_of_released h _)]

def unparsed (e : Engine σ) : Except PluginError Response → Session σ →
    Except PluginError Response × Session σ
  | .ok _, t => (.error .released, t.tell (.error .released e.info.title))
  | .error err, t => (.error err, t)

theorem getData_of_released_parse (hn : n.request = none) (hp : n.parse = some hook)
    (hgot : e.Fetched (e.workingUrl n input page) e.initial s got t) :
    e.getData n input page s = some (e.unparsed got t) := by
  have hfetch := fetch_eq_some_iff.mpr hgot
  rw [getData_of_parse_hook hn hp]
  cases got with
  | error err => rw [Act.bind_of_error hfetch, unparsed]
  | ok r =>
    have hgone : t.machine = none := by
      cases hgot <;> exact h
    rw [Act.bind_of_ok hfetch, invoke_of_released hgone, unparsed]

theorem processResponse_of_released_link {l : Link} (hl : Link.parse? link = some l) :
    e.processResponse link s =
      some (.error .released, s.tell (.error .released e.info.title)) := by
  rw [processResponse_of_link hl]
  exact getData_of_released_hook h rfl

end Released

end Engine

/-! ## What may still be seen -/

def Host.replay (h : Host σ) (k : σ) : List Event → σ
  | [] => k
  | .fetch url r :: seen => h.replay (h.request url r k).2 seen
  | _ :: seen => h.replay k seen

theorem Host.replay_append (h : Host σ) (k : σ) (seen more : List Event) :
    h.replay k (seen ++ more) = h.replay (h.replay k seen) more := by
  induction seen generalizing k with
  | nil => rfl
  | cons v seen ih => cases v <;> exact ih _

namespace Engine

variable {e : Engine σ} {op : Operation} {s t u : Session σ}

/-- What may still be seen of an operation once the script has been released: the fetch of a node
without a request hook, and the report of a failure. -/
def StillSeen (e : Engine σ) (op : Operation) : Event → Prop
  | .fetch url r => ∃ n input page, op = .content n input page ∧ n.request = none ∧
    url = e.workingUrl n input page ∧ r = e.initial
  | .log _ _ => False
  | .error err plugin => err.isAboutScript = false ∧ plugin = e.info.title

/-- What operations without a script lead to: their events are such as may still be seen, and the
transport calls among these are all that the host gets to know. -/
def Lifeless (e : Engine σ) (ops : List Operation) (s t : Session σ) : Prop :=
  t.machine = none ∧ ∃ seen, t.trace = s.trace ++ seen ∧
    t.host = e.bridge.setting.host.replay s.host seen ∧
    ∀ v ∈ seen, ∃ op ∈ ops, e.StillSeen op v

theorem Lifeless.refl (h : s.machine = none) (ops : List Operation) : e.Lifeless ops s s :=
  ⟨h, [], by simp, rfl, by simp⟩

theorem Lifeless.trans {ops more : List Operation} (h : e.Lifeless ops s t)
    (hmore : e.Lifeless more t u) : e.Lifeless (ops ++ more) s u := by
  obtain ⟨-, seen, htrace, hhost, hall⟩ := h
  obtain ⟨hgone, seen', htrace', hhost', hall'⟩ := hmore
  refine ⟨hgone, seen ++ seen', ?_, ?_, ?_⟩
  · rw [htrace', htrace, List.append_assoc]
  · rw [hhost', hhost, Host.replay_append]
  · intro v hv
    rcases List.mem_append.mp hv with hv | hv
    · obtain ⟨op, hop, hseen⟩ := hall v hv
      exact ⟨op, List.mem_append_left _ hop, hseen⟩
    · obtain ⟨op, hop, hseen⟩ := hall' v hv
      exact ⟨op, List.mem_append_right _ hop, hseen⟩

theorem Lifeless.tell {err : PluginError} (h : e.Lifeless [op] s t)
    (herr : err.isAboutScript = false) : e.Lifeless [op] s (t.tell (.error err e.info.title)) := by
  obtain ⟨hgone, seen, htrace, hhost, hall⟩ := h
  refine ⟨hgone, seen ++ [.error err e.info.title], ?_, ?_, ?_⟩
  · rw [Session.trace_tell, htrace, List.append_assoc]
  · rw [Host.replay_append, ← hhost]
    rfl
  · intro v hv
    rcases List.mem_append.mp hv with hv | hv
    · exact hall v hv
    · obtain rfl := List.mem_singleton.mp hv
      exact ⟨op, by simp, herr, rfl⟩

theorem Fetched.lifeless {n : Node} {input : Option String} {page : UInt32}
    {got : Except PluginError Response} (hn : n.request = none) (hs : s.machine = none)
    (h : e.Fetched (e.workingUrl n input page) e.initial s got t) :
    e.Lifeless [.content n input page] s t := by
  have hcalled : ∀ a k,
      e.bridge.setting.host.request (e.workingUrl n input page) e.initial s.host = (a, k) →
      e.Lifeless [.content n input page] s
        (s.fetched k (e.workingUrl n input page) e.initial) := by
    intro a k hr
    refine ⟨hs, _, Session.trace_fetched .., ?_, ?_⟩
    · simp only [Host.replay, hr]
      rfl
    · intro v hv
      obtain rfl := List.mem_singleton.mp hv
      exact ⟨_, by simp, n, input, page, rfl, hn, rfl, rfl⟩
  cases h with
  | literal => exact .refl hs _
  | answered _ hr => exact hcalled _ _ hr
  | failed _ hr => exact (hcalled _ _ hr).tell rfl

theorem getData_of_released (h : s.machine = none) (n : Node) (input : Option String)
    (page : UInt32) : ∃ got t, e.getData n input page s = some (got, t) ∧
      e.Lifeless [.content n input page] s t := by
  cases hn : n.request with
  | some hook =>
    exact ⟨_, _, getData_of_released_hook h hn, (Lifeless.refl h _).tell rfl⟩
  | none =>
    obtain ⟨got, t, hgot⟩ := e.exists_fetched (e.workingUrl n input page) e.initial s
    have hlifeless := hgot.lifeless hn h
    cases hp : n.parse with
    | none => exact ⟨got, t, getData_of_no_hooks hn hp hgot, hlifeless⟩
    | some hook =>
      refine ⟨_, _, getData_of_released_parse h hn hp hgot, ?_⟩
      cases got with
      | error => exact hlifeless
      | ok => exact hlifeless.tell rfl

theorem processResponse_of_released (h : s.machine = none) (op : Operation) (link : String) :
    ∃ got t, e.processResponse link s = some (got, t) ∧ e.Lifeless [op] s t := by
  cases hl : Link.parse? link with
  | some l => exact ⟨_, _, processResponse_of_released_link h hl, (Lifeless.refl h _).tell rfl⟩
  | none => exact ⟨_, _, processResponse_of_no_link hl, (Lifeless.refl h _).tell rfl⟩

end Engine

theorem Act.bind_pure_of_some {β : Type} {x : Act σ α} {f : α → β} {s t : Session σ}
    {got : Except PluginError α} (h : x s = some (got, t)) :
    (x >>= fun a => pure (f a)) s = some (got.map f, t) := by
  cases got with
  | error err => rw [Act.bind_of_error h]; rfl
  | ok a => rw [Act.bind_of_ok h]; rfl

/-- Without a script every operation comes to an end, and brings nothing of the plugin to life. -/
theorem Operation.act_of_released (e : Engine σ) {s : Session σ} (h : s.machine = none)
    (op : Operation) : ∃ out t, op.act e s = some (out, t) ∧ e.Lifeless [op] s t := by
  cases op with
  | find url allowRedirect => exact ⟨_, s, rfl, .refl h _⟩
  | content n input page =>
    obtain ⟨got, t, hgot, hlifeless⟩ := Engine.getData_of_released (e := e) h n input page
    exact ⟨_, t, Act.bind_pure_of_some hgot, hlifeless⟩
  | bytes link =>
    obtain ⟨got, t, hgot, hlifeless⟩ :=
      Engine.processResponse_of_released (e := e) h (.bytes link) link
    exact ⟨_, t, Act.bind_pure_of_some (Act.bind_pure_of_some hgot), hlifeless⟩
  | response link =>
    obtain ⟨got, t, hgot, hlifeless⟩ :=
      Engine.processResponse_of_released (e := e) h (.response link) link
    exact ⟨_, t, Act.bind_pure_of_some hgot, hlifeless⟩
  | release =>
    exact ⟨_, s.withMachine none, rfl, rfl, [], (List.append_nil _).symm, rfl, by simp⟩

namespace InUse

variable {u v w : InUse σ} {ops more : List Operation}

theorem step_of_released (h : v.session.machine = none) (op : Operation) :
    ∃ out w, v.step op = some (out, w) ∧ v.engine.Lifeless [op] v.session w.session := by
  obtain ⟨out, t, hact, hlifeless⟩ := op.act_of_released v.engine h
  refine ⟨out, { v with session := t }, ?_, hlifeless⟩
  simp only [step, hact]
  rfl

/-- The script is gone after every history in which it has been released. -/
theorem History.machine_of_release (h : History u ops v) (hmem : .release ∈ ops) :
    v.session.machine = none := by
  induction h with
  | nil => simp at hmem
  | @snoc ops op v w out _ hstep ih =>
    have hended := Operation.act_eq_some (step_eq_some hstep).2
    by_cases hop : op = .release
    · subst hop
      generalize hw : w.session = t at hended
      cases hended with
      | obtained f hpipeline => cases hpipeline
      | noLink hlink => rcases hlink with hlink | hlink <;> cases hlink
      | released => rfl
    · have hkept := hended.machine hop
      rw [ih (by simpa [Ne.symm hop] using hmem)] at hkept
      simpa using hkept

theorem History.lifeless (h : History v more w) (hv : v.session.machine = none) :
    v.engine.Lifeless more v.session w.session := by
  induction h with
  | nil => exact .refl hv _
  | snoc hhistory hstep ih =>
    obtain ⟨out, w', hstep', hlifeless⟩ := step_of_released ih.1 _
    rw [hstep] at hstep'
    cases hstep'
    rw [hhistory.engine_eq] at hlifeless
    exact ih.trans hlifeless

/-- What holds of an engine whose script has been released. -/
structure Retired (v : InUse σ) : Prop where
  /-- However it is used from here on, the script stays released and nothing of it runs. -/
  lifeless : ∀ more w, History v more w → w.engine = v.engine ∧ w.session.isReleased = true ∧
    v.engine.Lifeless more v.session w.session
  ends : ∀ op, ∃ out w, v.step op = some (out, w)
  /-- A request hook is refused before anything is fetched. -/
  requestHook : ∀ n input page hook, n.request = some hook →
    v.engine.getData n input page v.session =
      some (.error .released, v.session.tell (.error .released v.engine.info.title))
  /-- A parse hook is refused after the one fetch, if that has succeeded. -/
  parseHook : ∀ n input page hook, n.request = none → n.parse = some hook →
    ∃ got t,
      v.engine.Fetched (v.engine.workingUrl n input page) v.engine.initial v.session got t ∧
      v.engine.getData n input page v.session = some (v.engine.unparsed got t)
  /-- A node without hooks is served as it is with any machine. -/
  noHooks : ∀ n input page, n.request = none → n.parse = none →
    ∃ got t,
      v.engine.Fetched (v.engine.workingUrl n input page) v.engine.initial v.session got t ∧
      v.engine.getData n input page v.session = some (got, t) ∧
      ∀ m, v.engine.getData n input page (v.session.withMachine m) = some (got, t.withMachine m)
  noLink : ∀ link, Link.parse? link = none →
    v.engine.processResponse link v.session = some (.error (.parse (.notALink link)),
      v.session.tell (.error (.parse (.notALink link)) v.engine.info.title)) ∧
    v.engine.processData link v.session = some (.error (.parse (.notALink link)),
      v.session.tell (.error (.parse (.notALink link)) v.engine.info.title))
  link : ∀ link l, Link.parse? link = some l →
    v.engine.processResponse link v.session =
      some (.error .released, v.session.tell (.error .released v.engine.info.title)) ∧
    v.engine.processData link v.session =
      some (.error .released, v.session.tell (.error .released v.engine.info.title))
  find : ∀ url allowRedirect, v.step (.find url allowRedirect) =
    some (.ok (.node (v.engine.findNode? url allowRedirect)), v)
  release : v.step .release = some (.ok .done, v)

theorem retired_of_released (h : v.session.machine = none) : v.Retired where
  lifeless more w hmore := by
    have hlifeless := hmore.lifeless h
    exact ⟨hmore.engine_eq, Session.isReleased_iff.mpr hlifeless.1, hlifeless⟩
  ends op := by
    obtain ⟨out, w, hstep, -⟩ := step_of_released h op
    exact ⟨out, w, hstep⟩
  requestHook n input page hook hn := Engine.getData_of_released_hook h hn
  parseHook n input page hook hn hp := by
    obtain ⟨got, t, hgot⟩ := v.engine.exists_fetched (v.engine.workingUrl n input page) _ v.session
    exact ⟨got, t, hgot, Engine.getData_of_released_parse h hn hp hgot⟩
  noHooks n input page hn hp := by
    obtain ⟨got, t, hgot⟩ := v.engine.exists_fetched (v.engine.workingUrl n input page) _ v.session
    have hdata := Engine.getData_of_no_hooks hn hp hgot
    exact ⟨got, t, hgot, hdata, fun m => Engine.getData_of_no_hooks hn hp (hgot.withMachine m)⟩
  noLink link hl := by
    have hresponse := Engine.processResponse_of_no_link (e := v.engine) (s := v.session) hl
    exact ⟨hresponse, Engine.processData_of_error hresponse⟩
  link link l hl := by
    have hresponse := Engine.processResponse_of_released_link (e := v.engine) h hl
    exact ⟨hresponse, Engine.processData_of_error hresponse⟩
  find url allowRedirect := rfl
  release := by
    have hstep : v.step .release =
        some (.ok .done, { v with session := v.session.withMachine none }) := rfl
    rw [hstep, ← h]
    rfl

/-- The script of an engine is released once and for all: whether it has been released says the
history, and from then on nothing of the plugin runs. -/
theorem release_is_final {host : Host σ} {limits : Script.Limits} {source : String} {k : σ}
    {e : Engine σ} {s : Session σ}
    (hload : Engine.load host limits source (Session.initial k) = some (.ok e, s))
    (hhistory : History ⟨e, s⟩ ops v) :
    v.engine = e ∧ (v.session.isReleased = true ↔ .release ∈ ops) ∧
      (.release ∈ ops → v.Retired) := by
  have hloaded : s.machine.isSome := (Engine.load_eq_some hload).machine
  refine ⟨hhistory.engine_eq, ⟨fun h => ?_, fun h => ?_⟩, fun h => ?_⟩
  · exact hhistory.release_mem hloaded (Session.isReleased_iff.mp h)
  · exact Session.isReleased_iff.mpr (hhistory.machine_of_release h)
  · exact retired_of_released (hhistory.machine_of_release h)

/-- The plugin loads, and once it has been released its hook greets nobody. -/
theorem greeter_falls_silent :
    ∃ e s v,
      Engine.load Host.echoing ⟨0, 0⟩ Engine.greeter (Session.initial ()) = some (.ok e, s) ∧
      History ⟨e, s⟩ [.release] v ∧ v.session.isReleased = true ∧
      v.engine.getData (Node.redirect "greet") none 1 v.session =
        some (.error .released, v.session.tell (.error .released v.engine.info.title)) := by
  obtain ⟨e, s, hload⟩ := Engine.exists_of_loads Engine.greeter_loads
  have hhistory : History ⟨e, s⟩ [.release] ⟨e, s.withMachine none⟩ := .snoc .nil rfl
  obtain ⟨-, hreleased, hretired⟩ := release_is_final hload hhistory
  exact ⟨e, s, _, hload, hhistory, hreleased.mpr (by simp),
    (hretired (by simp)).requestHook _ none 1 "greet" rfl⟩

end InUse

end ContentSource
