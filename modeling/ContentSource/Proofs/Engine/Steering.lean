import ContentSource.Proofs.Engine.Addresses
import ContentSource.Proofs.Engine.Charsets
import ContentSource.Proofs.Script.HookOutcomes

/-! # The text of a hook steers its pipeline

A hook gives a text and chooses a charset, and the engine knows the text only from its bytes in that
charset. It reads the text itself from them if the charset is UTF-8, and in every charset if the
text is ASCII without the characters that begin the escape sequences of ISO-2022-JP. So links are
found in a control text, and go where it says, whichever charset the hook has chosen besides.
-/
namespace ContentSource

open Script (Run)

variable {σ : Type}

/-! ## Portable texts -/

/-- A text that every charset in which text can be written represents exactly: ASCII without the
characters with which ISO-2022-JP changes to other characters. -/
def Text.IsPortable (cs : List Char) : Prop :=
  ∀ c ∈ cs, c.toNat < 0x80 ∧ c.toNat ≠ 0x0E ∧ c.toNat ≠ 0x0F ∧ c.toNat ≠ 0x1B

instance (cs : List Char) : Decidable (Text.IsPortable cs) := List.decidableBAll _ cs

theorem Charset.holds_of_isPortable {e : Charset} {cs : List Char} (he : e.canEncode = true)
    (h : Text.IsPortable cs) : e.Holds cs := by
  refine holds_ascii he (fun c hc => (h c hc).1) fun c hc hexcludes => ?_
  have hcontrol := hexcludes.2
  obtain ⟨-, hout, hin, hescape⟩ := h c hc
  simp [isJpControl, hout, hin, hescape] at hcontrol

theorem Response.text_ofText {text location : String} {r : Request} (hr : r.Writable)
    (h : Text.IsPortable text.toList ∨ r.charset = .utf8) :
    (Response.ofText text r location).text = text := by
  have hholds : r.charset.Holds text.toList := by
    rcases h with h | h
    · exact Charset.holds_of_isPortable (Request.writable_iff.mp hr) h
    · exact Charset.holds_of_eq_utf8 h
  exact (congrArg String.ofList hholds).trans String.ofList_toList

/-! ## What comes after a hook -/

namespace Pipeline

variable {initial : Request} {url hook : String} {n : Node} {ds : List Deed} {i : Nat}
  {a : Response} {x : Effect}

inductive Next (n : Node) (a : Response) (text : String) : Effect → Prop
  | call {target : String} : linkPayload? Link.call text = some target →
    Next n a text (.fetch target a.request)
  | last : linkPayload? Link.call text = none → n.isRedirect = false →
    Next n a text (.fetch text a.request)
  | parse {hook : String} : linkPayload? Link.call text = none → n.isRedirect = true →
    n.parse = some hook → Next n a text (.invoke hook a)

/-- What the request hook gives is the answer of the last deed. -/
theorem HookGave.eq_of_last {x : Effect} {rest : List Deed} {r : Response} {seen : List Event}
    (h : HookGave initial url hook i ds a) (hds : ds = rest ++ [⟨x, .ok r, seen⟩]) :
    (∃ given, x = .invoke hook given) ∧ r = a := by
  obtain ⟨before, given, told, hlast⟩ := h.last_deed
  obtain ⟨-, hdeed⟩ := List.append_inj' (hds.symm.trans hlast) rfl
  simp only [List.cons.injEq, Deed.mk.injEq, Except.ok.injEq, and_true] at hdeed
  exact ⟨⟨given, hdeed.1⟩, hdeed.2.1⟩

theorem HookGave.unique {hook' : String} {j : Nat} {r : Response}
    (h : HookGave initial url hook i ds a) (h' : HookGave initial url hook' j ds r) : r = a := by
  obtain ⟨_, _, _, hds⟩ := h'.last_deed
  exact (h.eq_of_last hds).2

/-- The request hook has not been followed by a fetch. -/
theorem HookGave.not_fetched {rest : List Deed} {target : String} {q : Request} {r : Response}
    {seen : List Event} (h : HookGave initial url hook i ds a) :
    ds ≠ rest ++ [⟨.fetch target q, .ok r, seen⟩] := by
  intro hds
  obtain ⟨⟨given, hx⟩, -⟩ := h.eq_of_last hds
  cases hx

/-- After the request hook has given a response, its text decides which effect is due. -/
theorem HookGave.due_iff (hn : n.request = some hook) (h : HookGave initial url hook i ds a) :
    Due initial url n ds x ↔ Next n a a.text x := by
  constructor
  · intro hdue
    cases hdue with
    | url hn' => cases hn.symm.trans hn'
    | hook => exact absurd rfl h.ne_nil
    | call _ hgave hcall =>
      obtain rfl := h.unique hgave
      exact .call hcall
    | again => exact absurd rfl h.not_fetched
    | last _ hgave hother hr =>
      obtain rfl := h.unique hgave
      exact .last hother hr
    | parse hp hsourced =>
      cases hsourced with
      | fetched hn' => cases hn.symm.trans hn'
      | kept _ hgave hother hr =>
        obtain rfl := h.unique hgave
        exact .parse hother hr hp
      | followed => exact absurd rfl h.not_fetched
  · intro hnext
    cases hnext with
    | call hcall => exact .call hn h hcall
    | last hother hr => exact .last hn h hother hr
    | parse hother hr hp => exact .parse hp (.kept hn h hother hr)

end Pipeline

/-! ## What a hook gives -/

namespace Engine

variable {e : Engine σ} {s t : Session σ} {hook text : String} {given a : Response}
  {request : Request}

def Returns (e : Engine σ) (s : Session σ) (hook : String) (given : Response) (text : String)
    (request : Request) (t : Session σ) : Prop :=
  ∃ m r k n, s.machine = some m ∧
    Run.GivesText e.bridge.setting.context { m with host := s.host, events := [] } hook given text
      r k ∧
    Run.HoldsRequest e.bridge.setting.context k r request n ∧ t = s.resume n

theorem Returns.text_unique {other : String} {q : Request} {u : Session σ}
    (h : e.Returns s hook given text request t) (h' : e.Returns s hook given other q u) :
    other = text := by
  obtain ⟨m, r, k, n, hm, hgives, -, -⟩ := h
  obtain ⟨m', r', k', n', hm', hgives', -, -⟩ := h'
  obtain rfl : m = m' := Option.some.inj (hm.symm.trans hm')
  have hcalls : ∀ script, (Run.callHook script hook given).actOn e.bridge.setting.context
      { m with host := s.host, events := [] } = .ok (.ok (text, r)) k :=
    fun _ => Run.callHook_ok_iff.mpr hgives
  have hsame := (hcalls "").symm.trans (Run.callHook_ok_iff.mpr hgives')
  cases hsame
  rfl

/-- A hook succeeds with a response that is made of its text and its request. -/
theorem invoke_eq_ok_iff : e.bridge.invoke hook given s = some (.ok a, t) ↔
    ∃ text request, e.Returns s hook given text request t ∧
      a = .ofText text request given.location := by
  constructor
  · intro h
    rcases Act.logged_eq_some h with ⟨b, hb, hrun⟩ | ⟨err, v, herr, -⟩
    · cases hb
      obtain ⟨m, n, hm, hact, ht⟩ := Act.onMachine_eq_ok_iff.mp hrun
      obtain ⟨text, r, k, request, hgives, hholds, ha⟩ := Run.invokeHook_ok_iff.mp hact
      exact ⟨text, request, ⟨m, r, k, n, hm, hgives, hholds, ht⟩, ha⟩
    · cases herr
  · rintro ⟨text, request, ⟨m, r, k, n, hm, hgives, hholds, ht⟩, ha⟩
    refine Act.logged_of_ok (Act.onMachine_eq_ok_iff.mpr ⟨m, n, hm, ?_, ht⟩)
    exact Run.invokeHook_ok_iff.mpr ⟨text, r, k, request, hgives, hholds, ha⟩

theorem Returns.text_eq (h : e.Returns s hook given text request t)
    (htext : Text.IsPortable text.toList ∨ request.charset = .utf8) :
    (Response.ofText text request given.location).text = text :=
  Response.text_ofText (invoke_fromHook (invoke_eq_ok_iff.mpr ⟨_, _, h, rfl⟩)).1 htext

/-- How content is obtained once a request hook has given a text, with a response that carries it:
the text decides which effect is due, obtaining the content goes on with that, and it is at its end
with the response if the text is no `CALL` link and the node is a redirect that nothing parses. -/
structure GoesOn (e : Engine σ) (n : Node) (input : Option String) (page : UInt32) (s t : Session σ)
    (ds : List Deed) (a : Response) (text : String) : Prop where
  due : ∀ x, Pipeline.Due e.initial (e.workingUrl n input page) n ds x ↔ Pipeline.Next n a text x
  next : ∀ x, Pipeline.Next n a text x →
    ∃ rest, e.getData n input page s = (e.perform x >>= rest) t
  done : linkPayload? Link.call text = none → n.isRedirect = true → n.parse = none →
    e.getData n input page s = some (.ok a, t)

theorem goesOn_text {n : Node} {input : Option String} {page : UInt32} {i : Nat} {ds : List Deed}
    (hn : n.request = some hook) (hchain : Chain e.perform s ds t)
    (hgave : Pipeline.HookGave e.initial (e.workingUrl n input page) hook i ds a) :
    e.GoesOn n input page s t ds a a.text where
  due _ := hgave.due_iff hn
  next _ hnext := ((hgave.due_iff hn).mpr hnext).run_eq hchain
  done hother hr hp := (Pipeline.Ends.plain hp (.kept hn hgave hother hr)).run_eq hchain

/-- A response that is made of a text reads as it in every charset that a label chooses if the text
is portable, and in UTF-8 in any case. So does the response that a hook succeeds with, which is made
of the one text that the hook gives. Where a request hook has given that text the pipeline goes on
with what it says: with the target of a `CALL` link, or with the text itself as the last address. -/
theorem hook_text_steers (e : Engine σ) :
    (∀ (q : Request) (label text location : String), (q.setLabel label).1 = true →
      Text.IsPortable text.toList ∨ (q.setLabel label).2.charset = .utf8 →
        (Response.ofText text (q.setLabel label).2 location).text = text) ∧
    (∀ hook given s a t, e.bridge.invoke hook given s = some (.ok a, t) ↔
      ∃ text request, e.Returns s hook given text request t ∧
        a = .ofText text request given.location) ∧
    (∀ hook given s text request t, e.Returns s hook given text request t →
      (∀ other q u, e.Returns s hook given other q u → other = text) ∧
      (Text.IsPortable text.toList ∨ request.charset = .utf8 → ∀ a,
        e.bridge.invoke hook given s = some (.ok a, t) →
          a.text = text ∧ Link.parse? a.text = Link.parse? text)) ∧
    ∀ n hook input page s i ds t a, n.request = some hook → Chain e.perform s ds t →
      Pipeline.HookGave e.initial (e.workingUrl n input page) hook i ds a →
        ∃ before given seen u text, ds = before ++ [⟨.invoke hook given, .ok a, seen⟩] ∧
          Chain e.perform s before u ∧ e.Returns u hook given text a.request t ∧
          (Text.IsPortable text.toList ∨ a.request.charset = .utf8 →
            e.GoesOn n input page s t ds a text) := by
  refine ⟨fun q label text location hlabel => ?_, fun hook given s a t => invoke_eq_ok_iff,
    fun hook given s text request t hreturns => ⟨fun other q u h => hreturns.text_unique h, ?_⟩,
    fun n hook input page s i ds t a hn hchain hgave => ?_⟩
  · have hwritable : (q.setLabel label).2.Writable := by
      unfold Request.setLabel at hlabel ⊢
      split at hlabel
      · rename_i r hr
        exact Request.setLabel?_writable hr
      · cases hlabel
    exact Response.text_ofText hwritable
  · intro htext a ha
    have hinvoke := invoke_eq_ok_iff.mpr ⟨text, request, hreturns, rfl⟩
    rw [hinvoke] at ha
    cases ha
    exact ⟨hreturns.text_eq htext, congrArg Link.parse? (hreturns.text_eq htext)⟩
  · obtain ⟨before, given, seen, rfl⟩ := hgave.last_deed
    obtain ⟨u, hbefore, hinvoke, -⟩ := Chain.snoc_iff.mp hchain
    obtain ⟨text, request, hreturns, rfl⟩ := invoke_eq_ok_iff.mp hinvoke
    refine ⟨before, given, seen, u, text, rfl, hbefore, hreturns, fun htext => ?_⟩
    have hgoesOn := goesOn_text hn hchain hgave
    rwa [hreturns.text_eq htext] at hgoesOn

def redirectGiven (e : Engine σ) (hook : String) : Response :=
  ⟨[], e.initial, e.workingUrl (Node.redirect hook) none 1⟩

def gives (host : Host σ) (limits : Script.Limits) (source : String) (k : σ) (hook text : String)
    (c : Charset) : Bool :=
  match load host limits source (Session.initial k) with
  | some (.ok e, s) =>
    match s.machine with
    | some m =>
      match (Run.callHook e.bridge.script hook (e.redirectGiven hook)).actOn
        e.bridge.setting.context { m with host := s.host, events := [] } with
      | .ok (.ok (given, r)) n =>
        match (Run.readRequest r).actOn e.bridge.setting.context n with
        | .ok (.ok request) _ => given == text && request.charset == c
        | _ => false
      | _ => false
    | none => false
  | _ => false

theorem exists_of_gives {host : Host σ} {limits : Script.Limits} {source : String} {k : σ}
    {c : Charset} (h : gives host limits source k hook text c = true) : ∃ e s request t,
      load host limits source (Session.initial k) = some (.ok e, s) ∧
      e.Returns s hook (e.redirectGiven hook) text request t ∧ request.charset = c := by
  unfold gives at h
  split at h
  · rename_i e s hload
    split at h
    · rename_i m hm
      split at h
      · rename_i given r n hcall
        split at h
        · rename_i request i hread
          simp only [Bool.and_eq_true, beq_iff_eq] at h
          obtain ⟨rfl, hcharset⟩ := h
          have hgives := Run.callHook_ok_iff.mp hcall
          have hholds := Run.readRequest_ok_iff.mp hread
          exact ⟨e, s, request, _, hload, ⟨m, r, n, i, hm, hgives, hholds, rfl⟩, hcharset⟩
        · cases h
      · cases h
    · cases h
  · cases h

def caller : String :=
  "<plugin><meta><version>1</version></meta><nodes/><script>" ++
    "function next(text, location, request) \x7b request.encoding = 'iso-2022-jp'; " ++
    "return 'CALL::~a'; \x7d</script></plugin>"

theorem caller_gives :
    gives Host.echoing ⟨0, 0⟩ caller () "next" "CALL::~a" .iso2022Jp = true := by
  decide +kernel

/-- The link is followed, and the tilde in it is no other character in ISO-2022-JP. -/
theorem caller_is_followed : ∃ (e : Engine Unit) (s t : Session Unit) (a : Response)
    (rest : Response → Act Unit Response),
    load Host.echoing ⟨0, 0⟩ caller (Session.initial ()) = some (.ok e, s) ∧
      a.request.charset = .iso2022Jp ∧ a.text = "CALL::~a" ∧
      e.getData (Node.redirect "next") none 1 s =
        (e.perform (.fetch "~a" a.request) >>= rest) t ∧
      (Response.ofText "CALL::~a" (Request.initial.setLabel "Shift_JIS").2 "").text =
        "CALL::~a" := by
  obtain ⟨e, s, request, t, hload, hreturns, hcharset⟩ := exists_of_gives caller_gives
  have hportable : Text.IsPortable "CALL::~a".toList := by decide
  have hlink : linkPayload? Link.call "CALL::~a" = some "~a" := by decide
  obtain ⟨hlabel, hsucceeds, hread, hgoes⟩ := e.hook_text_steers
  have hinvoke := (hsucceeds _ _ _ _ _).mpr ⟨_, _, hreturns, rfl⟩
  obtain ⟨hunique, hreads⟩ := hread _ _ _ _ _ _ hreturns
  obtain ⟨seen, hseen, -⟩ := perform_requests (x := .invoke "next" (e.redirectGiven "next")) hinvoke
  have hchain : Chain e.perform s
      ([] ++ [⟨.invoke "next" (e.redirectGiven "next"), .ok _, seen⟩]) t :=
    .snoc .nil hinvoke hseen
  obtain ⟨before, given, told, u, text, hds, hbefore, hreturns', hgoesOn⟩ :=
    hgoes (Node.redirect "next") "next" none 1 s 0 _ t _ rfl hchain .first
  -- The only deed is the call of the hook in the session that the plugin has loaded in.
  obtain ⟨rfl, hdeed⟩ := List.append_inj' hds rfl
  simp only [List.cons.injEq, Deed.mk.injEq, Effect.invoke.injEq, true_and, and_true] at hdeed
  obtain ⟨rfl, -⟩ := hdeed
  obtain rfl := hbefore.unique .nil
  obtain rfl := hunique _ _ _ hreturns'
  obtain ⟨rest, hrest⟩ := (hgoesOn (.inl hportable)).next _ (.call hlink)
  refine ⟨e, u, t, _, rest, hload, hcharset, (hreads (.inl hportable) _ hinvoke).1, hrest, ?_⟩
  exact hlabel .initial "Shift_JIS" _ "" (by decide +kernel) (.inl hportable)

end Engine

end ContentSource
