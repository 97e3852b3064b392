import ContentSource.Pipeline
import ContentSource.Proofs.Actions

/-! # Chains of effects

A deed is an effect that has been performed. The relations of this module say which deeds a pipeline
consists of, without a loop: what the request hook has given after so many rounds, what the parse
hook is to see, which effect is due after the deeds so far, and how the pipeline ends.
-/
namespace ContentSource

/-- An effect that has been performed, its answer, and the events that it has brought about. -/
structure Deed where
  effect : Effect
  answer : Except PluginError Response
  seen : List Event

def Deed.trace (ds : List Deed) : List Event := ds.flatMap Deed.seen

/-- A place in a chain is its end or a place before the last deed. -/
theorem Deed.snoc_split {ds before after : List Deed} {b d : Deed}
    (h : ds ++ [b] = before ++ d :: after) :
    (after = [] ∧ ds = before ∧ b = d) ∨ ∃ rest, after = rest ++ [b] ∧ ds = before ++ d :: rest := by
  rcases List.eq_nil_or_concat after with rfl | ⟨rest, c, rfl⟩
  · obtain ⟨hds, hlast⟩ := List.append_inj' h rfl
    exact .inl ⟨rfl, hds, by simpa using hlast⟩
  · rw [List.concat_eq_append, ← List.cons_append, ← List.append_assoc] at h
    obtain ⟨hds, hlast⟩ := List.append_inj' h rfl
    obtain rfl : b = c := by simpa using hlast
    exact .inr ⟨rest, List.concat_eq_append, hds⟩

/-- Deeds done one after the other, each in the session that the one before has left behind. -/
inductive Chain {σ : Type} (perform : Effect → Act σ Response) (s : Session σ) :
    List Deed → Session σ → Prop
  | nil : Chain perform s [] s
  | snoc {ds : List Deed} {t u : Session σ} {d : Deed} :
    Chain perform s ds t → perform d.effect t = some (d.answer, u) →
    u.trace = t.trace ++ d.seen → Chain perform s (ds ++ [d]) u

namespace Chain

variable {σ : Type} {perform : Effect → Act σ Response} {s t u : Session σ} {ds es : List Deed}

theorem snoc_iff {d : Deed} : Chain perform s (ds ++ [d]) u ↔
    ∃ t, Chain perform s ds t ∧ perform d.effect t = some (d.answer, u) ∧
      u.trace = t.trace ++ d.seen := by
  constructor
  · intro h
    generalize hall : ds ++ [d] = all at h
    cases h with
    | nil => simp at hall
    | snoc hds hd hseen =>
      obtain ⟨rfl, hlast⟩ := List.append_inj' hall rfl
      cases hlast
      exact ⟨_, hds, hd, hseen⟩
  · rintro ⟨t, hds, hd, hseen⟩
    exact .snoc hds hd hseen

theorem trace_eq (h : Chain perform s ds t) : t.trace = s.trace ++ Deed.trace ds := by
  induction h with
  | nil => simp [Deed.trace]
  | snoc _ _ hseen ih => simp [hseen, ih, Deed.trace]

/-- Every deed of a chain has been performed in some session. -/
theorem performed (h : Chain perform s ds t) : ∀ d ∈ ds, ∃ u v,
    perform d.effect u = some (d.answer, v) ∧ v.trace = u.trace ++ d.seen := by
  induction h with
  | nil => simp
  | snoc _ hd hseen ih =>
    intro c hc
    rcases List.mem_append.mp hc with hc | hc
    · exact ih c hc
    · obtain rfl := List.mem_singleton.mp hc
      exact ⟨_, _, hd, hseen⟩

/-- The same deeds lead to the same session. -/
theorem unique (h : Chain perform s ds t) (h' : Chain perform s ds u) : t = u := by
  induction h generalizing u with
  | nil =>
    generalize hds : ([] : List Deed) = ds at h'
    cases h' with
    | nil => rfl
    | snoc => simp at hds
  | snoc _ hd _ ih =>
    obtain ⟨v, hv, hd', -⟩ := snoc_iff.mp h'
    obtain rfl := ih hv
    rw [hd] at hd'
    cases hd'
    rfl

end Chain

namespace Pipeline

section

variable (initial : Request) (url : String)

/-- What the request hook has given after so many rounds of `CALL` links, by these deeds. -/
inductive HookGave (hook : String) : Nat → List Deed → Response → Prop
  | first {r : Response} {seen : List Event} :
    HookGave hook 0 [⟨.invoke hook ⟨[], initial, url⟩, .ok r, seen⟩] r
  | again {i : Nat} {ds : List Deed} {r fetched next : Response} {target : String}
      {seen seen' : List Event} :
    HookGave hook i ds r → linkPayload? Link.call r.text = some target →
    HookGave hook (i + 1)
      (ds ++ [⟨.fetch target r.request, .ok fetched, seen⟩] ++
        [⟨.invoke hook fetched, .ok next, seen'⟩]) next

variable (n : Node)

inductive Sourced : List Deed → Response → Prop
  | fetched {r : Response} {seen : List Event} : n.request = none →
    Sourced [⟨.fetch url initial, .ok r, seen⟩] r
  | kept {hook : String} {i : Nat} {ds : List Deed} {r : Response} : n.request = some hook →
    HookGave initial url hook i ds r → linkPayload? Link.call r.text = none →
    n.isRedirect = true → Sourced ds r
  | followed {hook : String} {i : Nat} {ds : List Deed} {r fetched : Response}
      {seen : List Event} : n.request = some hook →
    HookGave initial url hook i ds r → linkPayload? Link.call r.text = none →
    n.isRedirect = false → Sourced (ds ++ [⟨.fetch r.text r.request, .ok fetched, seen⟩]) fetched

/-- The effect that comes next after these deeds. -/
inductive Due : List Deed → Effect → Prop
  | url : n.request = none → Due [] (.fetch url initial)
  | hook {hook : String} : n.request = some hook → Due [] (.invoke hook ⟨[], initial, url⟩)
  | call {hook : String} {i : Nat} {ds : List Deed} {r : Response} {target : String} :
    n.request = some hook → HookGave initial url hook i ds r →
    linkPayload? Link.call r.text = some target → Due ds (.fetch target r.request)
  | again {hook : String} {i : Nat} {ds : List Deed} {r fetched : Response} {target : String}
      {seen : List Event} : n.request = some hook → HookGave initial url hook i ds r →
    linkPayload? Link.call r.text = some target →
    Due (ds ++ [⟨.fetch target r.request, .ok fetched, seen⟩]) (.invoke hook fetched)
  | last {hook : String} {i : Nat} {ds : List Deed} {r : Response} : n.request = some hook →
    HookGave initial url hook i ds r → linkPayload? Link.call r.text = none →
    n.isRedirect = false → Due ds (.fetch r.text r.request)
  | parse {hook : String} {ds : List Deed} {r : Response} : n.parse = some hook →
    Sourced initial url n ds r → Due ds (.invoke hook r)

/-- How the pipeline ends: with the answer of its last effect, or with the first error. -/
inductive Ends : List Deed → Except PluginError Response → Prop
  | plain {ds : List Deed} {r : Response} : n.parse = none → Sourced initial url n ds r →
    Ends ds (.ok r)
  | parsed {hook : String} {ds : List Deed} {r out : Response} {seen : List Event} :
    n.parse = some hook → Sourced initial url n ds r →
    Ends (ds ++ [⟨.invoke hook r, .ok out, seen⟩]) (.ok out)
  | failed {ds : List Deed} {x : Effect} {e : PluginError} {seen : List Event} :
    Due initial url n ds x → Ends (ds ++ [⟨x, .error e, seen⟩]) (.error e)

end

/-! ## The deeds of a chain -/

section Deeds

variable {initial : Request} {url hook : String} {n : Node} {ds : List Deed} {r : Response}
  {x : Effect} {e : PluginError} {out : Except PluginError Response}

def AllDue (initial : Request) (url : String) (n : Node) (ds : List Deed) : Prop :=
  ∀ before d after, ds = before ++ d :: after → Due initial url n before d.effect

def AllOk (ds : List Deed) : Prop := ∀ d ∈ ds, ∃ r, d.answer = .ok r

theorem AllDue.nil : AllDue initial url n [] := by
  intro before d after h
  simp at h

theorem AllDue.snoc {d : Deed} (h : AllDue initial url n ds)
    (hdue : Due initial url n ds d.effect) : AllDue initial url n (ds ++ [d]) := by
  intro before c after hsplit
  rcases Deed.snoc_split hsplit with ⟨rfl, rfl, rfl⟩ | ⟨rest, rfl, rfl⟩
  · exact hdue
  · exact h before c rest rfl

theorem AllOk.nil : AllOk [] := by simp [AllOk]

theorem AllOk.snoc {seen : List Event} (h : AllOk ds) : AllOk (ds ++ [⟨x, .ok r, seen⟩]) := by
  intro d hd
  rcases List.mem_append.mp hd with hd | hd
  · exact h d hd
  · obtain rfl := List.mem_singleton.mp hd
    exact ⟨r, rfl⟩

theorem AllOk.not_mem {d : Deed} (h : AllOk ds) (herror : d.answer = .error e) : d ∉ ds := by
  intro hd
  obtain ⟨r, hr⟩ := h d hd
  rw [herror] at hr
  cases hr

theorem HookGave.lawful {i : Nat} (hn : n.request = some hook)
    (hgave : HookGave initial url hook i ds r) : AllDue initial url n ds ∧ AllOk ds := by
  induction hgave with
  | first => exact ⟨AllDue.snoc .nil (.hook hn), AllOk.snoc .nil⟩
  | again hgave hcall ih =>
    obtain ⟨hdue, hok⟩ := ih
    exact ⟨(hdue.snoc (.call hn hgave hcall)).snoc (.again hn hgave hcall), hok.snoc.snoc⟩

theorem Sourced.lawful (hsourced : Sourced initial url n ds r) :
    AllDue initial url n ds ∧ AllOk ds := by
  cases hsourced with
  | fetched hn => exact ⟨AllDue.snoc .nil (.url hn), AllOk.snoc .nil⟩
  | kept hn hgave _ _ => exact hgave.lawful hn
  | followed hn hgave hother hr =>
    obtain ⟨hdue, hok⟩ := hgave.lawful hn
    exact ⟨hdue.snoc (.last hn hgave hother hr), hok.snoc⟩

theorem Due.lawful (hdue : Due initial url n ds x) : AllDue initial url n ds ∧ AllOk ds := by
  cases hdue with
  | url | hook => exact ⟨.nil, .nil⟩
  | call hn hgave hcall => exact hgave.lawful hn
  | again hn hgave hcall =>
    obtain ⟨hdue, hok⟩ := hgave.lawful hn
    exact ⟨hdue.snoc (.call hn hgave hcall), hok.snoc⟩
  | last hn hgave _ _ => exact hgave.lawful hn
  | parse _ hsourced => exact hsourced.lawful

theorem Ends.allDue (hends : Ends initial url n ds out) : AllDue initial url n ds := by
  cases hends with
  | plain _ hsourced => exact hsourced.lawful.1
  | parsed hp hsourced => exact hsourced.lawful.1.snoc (.parse hp hsourced)
  | failed hdue => exact hdue.lawful.1.snoc hdue

/-- A deed that fails is the last one, and its error is what the pipeline ends with. -/
theorem Ends.first_error (hends : Ends initial url n ds out) {before after : List Deed} {d : Deed}
    (hsplit : ds = before ++ d :: after) (herror : d.answer = .error e) :
    after = [] ∧ out = .error e := by
  have hd : d ∈ ds := by simp [hsplit]
  cases hends with
  | plain _ hsourced => exact absurd hd (hsourced.lawful.2.not_mem herror)
  | parsed _ hsourced => exact absurd hd (hsourced.lawful.2.snoc.not_mem herror)
  | failed hdue =>
    rcases Deed.snoc_split hsplit with ⟨rfl, rfl, rfl⟩ | ⟨rest, rfl, rfl⟩
    · exact ⟨rfl, herror⟩
    · exact absurd (by simp) (hdue.lawful.2.not_mem herror)

end Deeds

end Pipeline

end ContentSource
