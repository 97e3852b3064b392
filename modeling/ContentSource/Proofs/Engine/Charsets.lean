import ContentSource.Proofs.Engine.Requests
import ContentSource.Proofs.Script.HookResults

/-! # The charsets of requests

Text can be written in the charset of every request that an engine has to do with, provided that its
transport answers with the requests it is given. The initial request is such, a hook gives only such
requests, and every effect of a pipeline takes one that was there before.
-/
namespace ContentSource

open Script (Context Machine Run)
open Script.Run (NamesCharset)

variable {σ : Type}

namespace Request

theorem setLabel?_writable {q r : Request} {label : String} (h : q.setLabel? label = some r) :
    r.Writable := by
  obtain ⟨charset, hcharset, rfl⟩ := Option.map_eq_some_iff.mp h
  exact writable_iff.mpr (Charset.canEncode_of_ofLabel? hcharset)

theorem setLabel_of_accepted {label : String} {charset : Charset}
    (h : Charset.ofLabel? label = some charset) (q : Request) :
    q.setLabel label = (true, { q with charset := charset }) := by
  simp only [setLabel, setLabel?, h, Option.map_some]

theorem setLabel_of_refused {label : String} (h : Charset.ofLabel? label = none) (q : Request) :
    q.setLabel label = (false, q) := by
  simp only [setLabel, setLabel?, h, Option.map_none]

end Request

def Effect.request : Effect → Request
  | .fetch _ r => r
  | .invoke _ given => given.request

/-- All requests that a deed has to do with can be written, and if it has called a hook then its
answer is one that a hook can give. -/
structure Deed.Writable (d : Deed) : Prop where
  effect : d.effect.request.Writable
  answer : ∀ a, d.answer = .ok a → a.request.Writable
  seen : ∀ url r, .fetch url r ∈ d.seen → r.Writable
  hook : ∀ hook given a, d.effect = .invoke hook given → d.answer = .ok a → given.FromHook a

namespace Engine

variable {e : Engine σ} {x : Effect} {s t : Session σ} {ds : List Deed} {n : Node}
  {input : Option String} {page : UInt32}

theorem initialRequest_writable {processors : Fields String} {r : Request}
    (h : initialRequest processors = .ok r) : r.Writable := by
  simp only [initialRequest] at h
  split at h
  · cases h
    rfl
  · split at h
    · cases h
      exact Request.setLabel?_writable ‹_›
    · cases h

theorem invoke_fromHook {hook : String} {given a : Response}
    (h : e.bridge.invoke hook given s = some (.ok a, t)) : given.FromHook a := by
  rcases Act.logged_eq_some h with ⟨b, hb, hrun⟩ | ⟨err, u, herr, -⟩
  · cases hb
    rcases Act.onMachine_eq_some hrun with ⟨-, hreleased, -⟩ | ⟨-, -, ⟨c, m, k, hact⟩, -⟩
    · cases hreleased
    · exact Run.invokeHook_gives e.bridge.script hook given hact a rfl
  · cases herr

theorem fetch_request {url : String} {r : Request} {a : Response}
    (hecho : e.bridge.setting.host.Echoes) (h : e.fetch url r s = some (.ok a, t)) :
    a.request = r := by
  generalize hout : (.ok a : Except PluginError Response) = out at h
  cases fetch_eq_some_iff.mp h with
  | failed => cases hout
  | literal =>
    cases hout
    rfl
  | answered _ hr =>
    cases hout
    exact hecho _ _ _ _ _ hr

theorem perform_writable {seen : List Event} {out : Except PluginError Response}
    (hecho : e.bridge.setting.host.Echoes) (hinitial : e.initial.Writable)
    (hx : x.request.Writable) (h : e.perform x s = some (out, t))
    (hseen : t.trace = s.trace ++ seen) : (⟨x, out, seen⟩ : Deed).Writable where
  effect := hx
  answer a ha := by
    cases ha
    cases x with
    | fetch url r =>
      have hrequest : a.request = r := fetch_request hecho h
      rw [hrequest]
      exact hx
    | invoke hook given => exact (invoke_fromHook h).1
  seen url r hmem := by
    obtain ⟨own, ht, howns⟩ := perform_requests h
    obtain rfl : own = seen := List.append_cancel_left (ht.symm.trans hseen)
    have hr := howns url r hmem
    cases x with
    | fetch =>
      obtain ⟨-, rfl⟩ := hr
      exact hx
    | invoke =>
      obtain rfl : r = e.initial := hr
      exact hinitial
  hook hook given a hxa ha := by
    cases hxa
    cases ha
    exact invoke_fromHook h

/-- Whatever an effect takes was written before, or is the initial request. -/
theorem continues_writable {before : List Deed} (hinitial : e.initial.Writable)
    (h : x.Continues e.initial before) (hbefore : ∀ d ∈ before, d.Writable) :
    x.request.Writable := by
  cases x with
  | fetch url r =>
    rcases h with ⟨-, rfl⟩ | ⟨rest, hook, given, got, seen, rfl, rfl⟩
    · exact hinitial
    · exact (hbefore _ List.mem_concat_self).answer got rfl
  | invoke hook given =>
    rcases h with ⟨-, hgiven⟩ | ⟨rest, y, seen, rfl⟩
    · change given.request.Writable
      rwa [hgiven]
    · exact (hbefore _ List.mem_concat_self).answer given rfl

theorem chain_writable (hecho : e.bridge.setting.host.Echoes) (hinitial : e.initial.Writable)
    (h : Chain e.perform s ds t)
    (hdue : Pipeline.AllDue e.initial (e.workingUrl n input page) n ds) :
    ∀ d ∈ ds, d.Writable := by
  induction h with
  | nil => simp
  | @snoc ds t u d hchain hd hseen ih =>
    have hbefore := ih fun before c after hsplit =>
      hdue before c (after ++ [d]) (by rw [hsplit, List.append_assoc, List.cons_append])
    have hx := continues_writable hinitial (hdue ds d [] rfl).continues hbefore
    intro c hc
    rcases List.mem_append.mp hc with hc | hc
    · exact hbefore c hc
    · obtain rfl := List.mem_singleton.mp hc
      exact perform_writable hecho hinitial hx hd hseen

/-- What a pipeline ends with is the answer of one of its deeds. -/
theorem getData_writable {a : Response} (hecho : e.bridge.setting.host.Echoes)
    (hinitial : e.initial.Writable) (h : e.getData n input page s = some (.ok a, t)) :
    a.request.Writable := by
  obtain ⟨ds, hchain, hends⟩ := getData_eq_some_iff.mp h
  have hall := chain_writable hecho hinitial hchain hends.allDue
  generalize hout : (.ok a : Except PluginError Response) = out at hends
  cases hends with
  | failed => cases hout
  | plain _ hsourced =>
    cases hout
    obtain ⟨rest, x, seen, rfl⟩ := hsourced.last_deed
    exact (hall _ List.mem_concat_self).answer a rfl
  | parsed =>
    cases hout
    exact (hall _ List.mem_concat_self).answer a rfl

structure WritesAll (e : Engine σ) : Prop where
  initial : e.initial.Writable
  /-- Whatever runs in the script's machine, and even if it does not come to an end. -/
  scripts : ∀ (α : Type) (x : Run σ α) (m : Machine σ), ∃ told,
    ((x.act e.bridge.setting.context).after m).events = told ++ m.events ∧
      ∀ url r, .fetch url r ∈ told → r.Writable
  /-- Whatever a pipeline has done so far. -/
  deeds : ∀ n input page s ds t, e.Follows n input page s ds t → ∀ d ∈ ds, d.Writable
  content : ∀ n input page s a t, e.getData n input page s = some (.ok a, t) → a.request.Writable
  links : ∀ link s a t, e.processResponse link s = some (.ok a, t) → a.request.Writable

theorem writesAll_of_initial (hecho : e.bridge.setting.host.Echoes)
    (hinitial : e.initial.Writable) : e.WritesAll where
  initial := hinitial
  scripts α x m := by
    obtain ⟨told, htold, hall⟩ := x.requests e.bridge.setting m
    refine ⟨told, htold, fun url r hmem => ?_⟩
    rw [hall url r hmem, e.request_eq]
    exact hinitial
  deeds n input page s ds t hfollows := chain_writable hecho hinitial hfollows.1 hfollows.2
  content n input page s a t h := getData_writable hecho hinitial h
  links link s a t h := by
    cases hl : Link.parse? link with
    | none =>
      rw [processResponse_of_no_link hl] at h
      cases h
    | some l =>
      rw [processResponse_of_link hl] at h
      exact getData_writable hecho hinitial h

/-- The two places where a label chooses a charset agree: a label that is refused leaves a request
as it is and a hook without a result, and one that is accepted chooses the same charset. With a
transport that answers with the requests it is given, text can be written in the charset of every
request that reaches the transport, a hook or the caller, be it while the plugin loads or later. -/
theorem charsets_can_encode {host : Host σ} (hecho : host.Echoes) (limits : Script.Limits)
    (source : String) (k : σ) :
    (∀ r : Request, r.Writable ↔
      r.charset ≠ .replacement ∧ r.charset ≠ .utf16be ∧ r.charset ≠ .utf16le) ∧
    (∀ (c : Context σ) m script hook given label n,
      NamesCharset c m script hook given label n → ∀ q : Request,
        ((q.setLabel label).1 = false → (q.setLabel label).2 = q ∧
          (Run.invokeHook script hook given).act c m =
            .ok (.error (.invalidResult (.unknownCharset label))) n) ∧
        ((q.setLabel label).1 = true → ∀ res n',
          (Run.invokeHook script hook given).act c m = .ok res n' →
            (∀ l, res ≠ .error (.invalidResult (.unknownCharset l))) ∧
              ∀ a, res = .ok a → a.request.charset = (q.setLabel label).2.charset)) ∧
    (∀ d initial, Document.parse source = .ok d →
      initialRequest d.nodes.processors = .ok initial →
        (ofDocument host limits d initial).WritesAll) ∧
    ∀ out t, load host limits source (Session.initial k) = some (out, t) →
      (∀ url r, .fetch url r ∈ t.trace → r.Writable) ∧ ∀ e, out = .ok e → e.WritesAll := by
  refine ⟨fun r => ?_, fun c m script hook given label n hnames q => ?_, fun d initial _ hr => ?_,
    fun out t hload => ⟨fun url r hmem => ?_, fun e he => ?_⟩⟩
  · exact Request.writable_iff.trans (Charset.canEncode_iff r.charset)
  · cases hlabel : Charset.ofLabel? label with
    | none =>
      rw [Request.setLabel_of_refused hlabel]
      exact ⟨fun _ => ⟨rfl, Run.invokeHook_of_refused hnames hlabel⟩, fun h => by cases h⟩
    | some charset =>
      rw [Request.setLabel_of_accepted hlabel]
      refine ⟨fun h => ?_, fun _ res n' hres => Run.invokeHook_of_accepted hnames hlabel hres⟩
      cases h
  · exact writesAll_of_initial hecho (initialRequest_writable hr)
  · obtain ⟨seen, ht, hrequests⟩ := (load_eq_some hload).requests
    rw [ht, Session.trace_initial, List.nil_append] at hmem
    obtain ⟨⟨d, -, hr⟩, -⟩ := hrequests url r hmem
    exact initialRequest_writable hr
  · subst he
    obtain ⟨d, initial, -, hr, rfl⟩ := (load_eq_some hload).eq_ofDocument
    exact writesAll_of_initial hecho (initialRequest_writable hr)

/-- A plugin in GBK loads and writes all its requests. -/
theorem greeter_writesAll :
    Host.echoing.Echoes ∧ ∃ e s,
      load Host.echoing ⟨0, 0⟩ greeter (Session.initial ()) = some (.ok e, s) ∧ e.WritesAll := by
  obtain ⟨e, s, hload⟩ := exists_of_loads greeter_loads
  obtain ⟨-, -, -, hloaded⟩ := charsets_can_encode Host.echoing_echoes ⟨0, 0⟩ greeter ()
  exact ⟨Host.echoing_echoes, e, s, hload, (hloaded _ s hload).2 e rfl⟩

end Engine

end ContentSource
