import ContentSource.Proofs.Engine.History

/-! # Where requests come from

A request that a script changes reaches only the effect that comes next in its own pipeline, through
what is read back when the hook returns. Every pipeline starts with the initial request, and so does
every fetch of another script.
-/
namespace ContentSource

open Script (Run)

variable {σ : Type}

/-- An effect takes the initial request if it is the first of its pipeline. Otherwise a fetch takes
the request that the hook before it has left behind, and a hook takes the answer before it. -/
def Effect.Continues (initial : Request) (before : List Deed) : Effect → Prop
  | .fetch _ r => (before = [] ∧ r = initial) ∨
    ∃ rest hook given got seen, before = rest ++ [⟨.invoke hook given, .ok got, seen⟩] ∧
      r = got.request
  | .invoke _ given => (before = [] ∧ given.request = initial) ∨
    ∃ rest x seen, before = rest ++ [⟨x, .ok given, seen⟩]

/-- What the transport has been called for during a deed: a fetch calls it for itself alone, and a
hook only with the initial request. -/
def Deed.FetchesOwn (initial : Request) (d : Deed) : Prop :=
  ∀ url r, .fetch url r ∈ d.seen →
    match d.effect with
    | .fetch url' r' => url = url' ∧ r = r'
    | .invoke .. => r = initial

namespace Pipeline

variable {initial : Request} {url hook : String} {n : Node} {ds : List Deed} {r : Response}
  {x : Effect}

theorem HookGave.last_deed {i : Nat} (h : HookGave initial url hook i ds r) :
    ∃ rest given seen, ds = rest ++ [⟨.invoke hook given, .ok r, seen⟩] := by
  cases h with
  | first => exact ⟨[], _, _, rfl⟩
  | again => exact ⟨_, _, _, rfl⟩

theorem Sourced.last_deed (h : Sourced initial url n ds r) :
    ∃ rest x seen, ds = rest ++ [⟨x, .ok r, seen⟩] := by
  cases h with
  | fetched => exact ⟨[], _, _, rfl⟩
  | kept _ hgave =>
    obtain ⟨rest, given, seen, rfl⟩ := hgave.last_deed
    exact ⟨rest, _, seen, rfl⟩
  | followed => exact ⟨_, _, _, rfl⟩

theorem Due.continues (h : Due initial url n ds x) : x.Continues initial ds := by
  cases h with
  | url => exact .inl ⟨rfl, rfl⟩
  | hook => exact .inl ⟨rfl, rfl⟩
  | call _ hgave =>
    obtain ⟨rest, given, seen, rfl⟩ := hgave.last_deed
    exact .inr ⟨rest, _, given, _, seen, rfl, rfl⟩
  | again => exact .inr ⟨_, _, _, rfl⟩
  | last _ hgave =>
    obtain ⟨rest, given, seen, rfl⟩ := hgave.last_deed
    exact .inr ⟨rest, _, given, _, seen, rfl, rfl⟩
  | parse _ hsourced => exact .inr hsourced.last_deed

end Pipeline

/-- No script calls the transport with anything but the request of its plugin. -/
theorem Act.Scripted.requests {α : Type} {plugin : String} {request : Request}
    {P : PluginError → Prop} {s t : Session σ} {out : Except PluginError α}
    (h : Scripted plugin request P s out t) :
    ∃ seen, t.trace = s.trace ++ seen ∧ ∀ url r, .fetch url r ∈ seen → r = request := by
  cases h with
  | released => exact ⟨_, Session.trace_tell s _, by simp⟩
  | @done _ _ told _ _ ht hall => exact ⟨told, ht, fun url r hmem => hall _ hmem⟩
  | @failed e u told _ _ hu hall =>
    refine ⟨told ++ [.error e plugin], by simp [hu], fun url r hmem => ?_⟩
    exact hall _ (by simpa using hmem)

namespace Engine

variable {e : Engine σ} {d : Deed} {s t : Session σ} {ds : List Deed}

theorem perform_requests {x : Effect} {out : Except PluginError Response}
    (h : e.perform x s = some (out, t)) :
    ∃ seen, t.trace = s.trace ++ seen ∧ (⟨x, out, seen⟩ : Deed).FetchesOwn e.initial := by
  cases x with
  | fetch url r =>
    cases fetch_eq_some_iff.mp h with
    | literal => exact ⟨[], by simp, by simp [Deed.FetchesOwn]⟩
    | answered => exact ⟨[.fetch url r], by simp, by simp [Deed.FetchesOwn]⟩
    | @failed f =>
      refine ⟨[.fetch url r, .error (.fetch url f) e.info.title], by simp, ?_⟩
      simp [Deed.FetchesOwn]
  | invoke hook given => exact (invoke_eq_some h).requests

theorem chain_fetchesOwn (h : Chain e.perform s ds t) : ∀ d ∈ ds, d.FetchesOwn e.initial := by
  induction h with
  | nil => simp
  | snoc _ hd hseen ih =>
    intro d hmem
    rcases List.mem_append.mp hmem with hmem | hmem
    · exact ih d hmem
    · obtain rfl := List.mem_singleton.mp hmem
      obtain ⟨seen, ht, howns⟩ := perform_requests hd
      rwa [List.append_cancel_left (ht.symm.trans hseen)] at howns

/-- Whatever a plugin fetches while it is loaded is fetched with the request of its pipelines. -/
theorem Loaded.requests {host : Host σ} {limits : Script.Limits} {source : String}
    {out : Except PluginError (Engine σ)} (h : Loaded host limits source s out t) :
    ∃ seen, t.trace = s.trace ++ seen ∧ ∀ url r, .fetch url r ∈ seen →
      (∃ d, Document.parse source = .ok d ∧ initialRequest d.nodes.processors = .ok r) ∧
        ∀ e, out = .ok e → r = e.initial := by
  cases h with
  | unreadable | badCharset => exact ⟨_, Session.trace_tell s _, by simp⟩
  | @started d initial ran _ hd hr hran =>
    obtain ⟨seen, ht, hrequests⟩ := hran.requests
    refine ⟨seen, ht, fun url r hmem => ?_⟩
    obtain rfl := hrequests url r hmem
    refine ⟨⟨d, hd, hr⟩, fun e he => ?_⟩
    cases ran with
    | ok => cases he; rfl
    | error => cases he

end Engine

theorem Operation.Ended.no_fetch {e : Engine σ} {op : Operation} {s t : Session σ}
    {out : Except PluginError Answer} (h : Ended e s op out t) (hop : op.pipeline? = none) :
    ∃ seen, t.trace = s.trace ++ seen ∧ ∀ url r, .fetch url r ∉ seen := by
  cases h with
  | found => exact ⟨[], by simp, by simp⟩
  | obtained f hpipeline => simp [hop] at hpipeline
  | noLink => exact ⟨_, Session.trace_tell s _, by simp⟩
  | released => exact ⟨[], by simp [Session.trace], by simp⟩

theorem Operation.Ended.follows {e : Engine σ} {op : Operation} {n : Node}
    {input : Option String} {page : UInt32} {s t : Session σ} {out : Except PluginError Answer}
    (h : Ended e s op out t) (hop : op.pipeline? = some (n, input, page)) :
    ∃ ds, e.Follows n input page s ds t := by
  cases h with
  | found | released => cases hop
  | obtained f hpipeline hgot =>
    rw [hop] at hpipeline
    cases hpipeline
    exact Engine.getData_follows hgot
  | noLink hlink hl => rcases hlink with rfl | rfl <;> simp [pipeline?, hl] at hop

/-- Whatever a run has fetched so far has been fetched with the request of its plugin, also where the
run does not come to an end. -/
theorem Script.Run.requests {α : Type} (x : Run σ α) (g : Script.Setting σ) (m : Script.Machine σ) :
    ∃ told, ((x.act g.context).after m).events = told ++ m.events ∧
      ∀ url r, .fetch url r ∈ told → r = g.request := by
  obtain ⟨told, htold, hall⟩ := x.act_isHonest g m
  exact ⟨told, htold, fun url r hmem => hall _ hmem⟩

namespace InUse

/-- What a script fetches while its plugin is loaded is fetched with the request that all pipelines
of the engine will start with, and so it is in a script that does not come to an end. Over every
history the description, the nodes and the initial request of an engine stay the same, and no script
fetches with another request than that, not even in a hook that does not come to an end. Whatever a
pipeline has done so far, each of its effects takes the initial request or what the deed just before
it has left behind. No other operation calls the transport. -/
theorem requests_stay_apart (host : Host σ) (limits : Script.Limits) (source : String) (k : σ)
    (e : Engine σ) (s : Session σ) :
    (∀ out t, Engine.load host limits source (Session.initial k) = some (out, t) →
      ∀ url r, .fetch url r ∈ t.trace →
        (∃ d, Document.parse source = .ok d ∧
          Engine.initialRequest d.nodes.processors = .ok r) ∧ ∀ e, out = .ok e → r = e.initial) ∧
    (∀ d initial, Document.parse source = .ok d →
      Engine.initialRequest d.nodes.processors = .ok initial →
      ∀ m, ∃ told,
        (((Run.start d.script).act
          (Engine.ofDocument host limits d initial).bridge.setting.context).after m).events =
          told ++ m.events ∧ ∀ url r, .fetch url r ∈ told → r = initial) ∧
    ∀ ops v, History ⟨e, s⟩ ops v →
      v.engine = e ∧
      (∀ hook given m, ∃ told,
        (((Run.invokeHook e.bridge.script hook given).act e.bridge.setting.context).after m).events =
          told ++ m.events ∧ ∀ url r, .fetch url r ∈ told → r = e.initial) ∧
      (∀ n input page ds t, e.Follows n input page v.session ds t →
        ∀ before d after, ds = before ++ d :: after →
          d.effect.Continues e.initial before ∧ d.FetchesOwn e.initial) ∧
      ∀ op out w, v.step op = some (out, w) →
        ∃ seen, w.session.trace = v.session.trace ++ seen ∧
          match op.pipeline? with
          | some (n, input, page) =>
            ∃ ds, e.Follows n input page v.session ds w.session ∧ seen = Deed.trace ds
          | none => ∀ url r, .fetch url r ∉ seen := by
  refine ⟨fun out t hload url r hmem => ?_,
    fun d initial _ _ m =>
      (Run.start d.script).requests (Engine.ofDocument host limits d initial).bridge.setting m,
    fun ops v hhistory => ⟨?_, ?_, ?_, ?_⟩⟩
  · obtain ⟨seen, ht, hrequests⟩ := (Engine.load_eq_some hload).requests
    rw [ht, Session.trace_initial, List.nil_append] at hmem
    exact hrequests url r hmem
  · exact hhistory.engine_eq
  · intro hook given m
    rw [← e.request_eq]
    exact (Run.invokeHook e.bridge.script hook given).requests e.bridge.setting m
  · rintro n input page ds t ⟨hchain, hdue⟩ before d after rfl
    exact ⟨(hdue before d after rfl).continues, Engine.chain_fetchesOwn hchain d (by simp)⟩
  · intro op out w hstep
    obtain ⟨-, hact⟩ := step_eq_some hstep
    rw [hhistory.engine_eq] at hact
    have hended := Operation.act_eq_some hact
    cases hop : op.pipeline? with
    | none => exact hended.no_fetch hop
    | some p =>
      obtain ⟨n, input, page⟩ := p
      obtain ⟨ds, hfollows⟩ := hended.follows hop
      exact ⟨_, hfollows.1.trace_eq, ds, hfollows, rfl⟩

end InUse

end ContentSource
