import ContentSource.Proofs.Pipeline.Chain

/-! # What a pipeline performs

A pipeline ends exactly as its chain of effects does, and it does not come to an end exactly when an
effect does not or when its request hook gives `CALL` links for ever. The rounds of the repetition
and the rounds of a chain go together, one for one; everything else is a case for each effect.
-/
namespace ContentSource

variable {σ α β : Type}

def Act.Appends (x : Act σ α) : Prop :=
  ∀ ⦃s out t⦄, x s = some (out, t) → ∃ seen, t.trace = s.trace ++ seen

namespace Chain

variable {perform : Effect → Act σ Response} {s t u : Session σ} {ds : List Deed} {x : Effect}
  {a : Except PluginError Response}

theorem extend (happ : ∀ x, (perform x).Appends) (h : Chain perform s ds t)
    (hx : perform x t = some (a, u)) : ∃ seen, Chain perform s (ds ++ [⟨x, a, seen⟩]) u := by
  obtain ⟨seen, hseen⟩ := happ x hx
  exact ⟨seen, .snoc h hx hseen⟩

theorem single_iff {d : Deed} : Chain perform s [d] u ↔
    perform d.effect s = some (d.answer, u) ∧ u.trace = s.trace ++ d.seen := by
  rw [← List.nil_append [d], snoc_iff]
  constructor
  · rintro ⟨t, hnil, hd⟩
    obtain rfl := hnil.unique .nil
    exact hd
  · intro hd
    exact ⟨s, .nil, hd⟩

end Chain

namespace Pipeline

variable {perform : Effect → Act σ Response} {n : Node} {initial : Request} {url hook : String}
  {s t u : Session σ} {ds : List Deed} {r : Response}

/-! ## What a chain says about the pipeline -/

def rounds (perform : Effect → Act σ Response) (initial : Request) (url hook : String) :
    Act σ Response :=
  perform (.invoke hook ⟨[], initial, url⟩) >>= Act.repeatUntil (answerCall perform hook)

theorem source_of_no_hook (h : n.request = none) :
    source perform n initial url = perform (.fetch url initial) := by
  simp only [source, h]

theorem source_of_redirect (h : n.request = some hook) (hr : n.isRedirect = true) :
    source perform n initial url = rounds perform initial url hook := by
  simp only [source, h, hr, if_true, bind_pure, rounds]

theorem source_of_hook (h : n.request = some hook) (hr : n.isRedirect = false) :
    source perform n initial url =
      rounds perform initial url hook >>= fun last => perform (.fetch last.text last.request) := by
  simp only [source, h, hr, Bool.false_eq_true, if_false, rounds, bind_assoc]

theorem answerCall_of_call {target : String} (h : linkPayload? Link.call r.text = some target) :
    answerCall perform hook r =
      perform (.fetch target r.request) >>= fun fetched =>
        perform (.invoke hook fetched) >>= fun next => pure (.inl next) := by
  simp only [answerCall, h]

theorem answerCall_of_other (h : linkPayload? Link.call r.text = none) :
    answerCall perform hook r s = some (.ok (.inr r), s) := by
  simp only [answerCall, h]
  rfl

/-- The rounds of a chain are rounds of the repetition. -/
theorem HookGave.repeats {i : Nat} (hgave : HookGave initial url hook i ds r)
    (h : Chain perform s ds t) :
    ∃ first u, perform (.invoke hook ⟨[], initial, url⟩) s = some (.ok first, u) ∧
      Act.Repeats (answerCall perform hook) first u i r t := by
  induction hgave generalizing t with
  | first => exact ⟨_, t, (Chain.single_iff.mp h).1, .zero⟩
  | again _ hcall ih =>
    obtain ⟨v, h, hinvoke, -⟩ := Chain.snoc_iff.mp h
    obtain ⟨w, h, hfetch, -⟩ := Chain.snoc_iff.mp h
    obtain ⟨first, u, hfirst, hrounds⟩ := ih h
    refine ⟨first, u, hfirst, .succ hrounds ?_⟩
    rw [answerCall_of_call hcall, Act.bind_of_ok hfetch, Act.bind_of_ok hinvoke, Act.pure_apply]

theorem HookGave.rounds_eq {i : Nat} (hgave : HookGave initial url hook i ds r)
    (h : Chain perform s ds t) :
    rounds perform initial url hook s = Act.repeatUntil (answerCall perform hook) r t := by
  obtain ⟨first, u, hfirst, hrounds⟩ := hgave.repeats h
  rw [rounds, Act.bind_of_ok hfirst, hrounds.repeatUntil_eq]

theorem HookGave.rounds_eq_ok {i : Nat} (hgave : HookGave initial url hook i ds r)
    (h : Chain perform s ds t) (hother : linkPayload? Link.call r.text = none) :
    rounds perform initial url hook s = some (.ok r, t) := by
  rw [hgave.rounds_eq h, Act.repeatUntil_of_result (answerCall_of_other hother)]

theorem Sourced.source_eq (hsourced : Sourced initial url n ds r) (h : Chain perform s ds t) :
    source perform n initial url s = some (.ok r, t) := by
  cases hsourced with
  | fetched hn =>
    rw [source_of_no_hook hn]
    exact (Chain.single_iff.mp h).1
  | kept hn hgave hother hr =>
    rw [source_of_redirect hn hr]
    exact hgave.rounds_eq_ok h hother
  | followed hn hgave hother hr =>
    obtain ⟨u, h, hfetch, -⟩ := Chain.snoc_iff.mp h
    rw [source_of_hook hn hr, Act.bind_of_ok (hgave.rounds_eq_ok h hother)]
    exact hfetch

theorem run_of_no_parse (h : n.parse = none) :
    run perform n initial url = source perform n initial url := by
  simp only [run, h, bind_pure]

theorem run_of_parse (h : n.parse = some hook) :
    run perform n initial url =
      source perform n initial url >>= fun r => perform (.invoke hook r) := by
  simp only [run, h]

section Continuation

variable (perform) (initial) (url)

theorem exists_run_eq_source_bind (n : Node) :
    ∃ k, run perform n initial url = source perform n initial url >>= k := ⟨_, rfl⟩

theorem exists_run_eq_rounds_bind (hn : n.request = some hook) :
    ∃ k, run perform n initial url = rounds perform initial url hook >>= k := by
  obtain ⟨k, hk⟩ := exists_run_eq_source_bind perform initial url n
  cases hr : n.isRedirect with
  | true => exact ⟨k, by rw [hk, source_of_redirect hn hr]⟩
  | false => exact ⟨_, by rw [hk, source_of_hook hn hr, bind_assoc]⟩

end Continuation

/-- After the deeds of a chain the pipeline goes on with the effect that is due. -/
theorem Due.run_eq {x : Effect} (hdue : Due initial url n ds x) (h : Chain perform s ds t) :
    ∃ k, run perform n initial url s = (perform x >>= k) t := by
  cases hdue with
  | url hn =>
    obtain rfl := h.unique .nil
    obtain ⟨k, hk⟩ := exists_run_eq_source_bind perform initial url n
    exact ⟨k, by rw [hk, source_of_no_hook hn]⟩
  | hook hn =>
    obtain rfl := h.unique .nil
    obtain ⟨k, hk⟩ := exists_run_eq_rounds_bind perform initial url hn
    exact ⟨_, by rw [hk, rounds, bind_assoc]⟩
  | call hn hgave hcall =>
    obtain ⟨k, hk⟩ := exists_run_eq_rounds_bind perform initial url hn
    rw [hk, Act.bind_congr (hgave.rounds_eq h), Act.repeatUntil_eq_bind, answerCall_of_call hcall,
      bind_assoc, bind_assoc]
    exact ⟨_, rfl⟩
  | again hn hgave hcall =>
    obtain ⟨u, h, hfetch, -⟩ := Chain.snoc_iff.mp h
    obtain ⟨k, hk⟩ := exists_run_eq_rounds_bind perform initial url hn
    rw [hk, Act.bind_congr (hgave.rounds_eq h), Act.repeatUntil_eq_bind, answerCall_of_call hcall,
      bind_assoc, bind_assoc, Act.bind_of_ok hfetch, bind_assoc]
    exact ⟨_, rfl⟩
  | last hn hgave hother hr =>
    obtain ⟨k, hk⟩ := exists_run_eq_source_bind perform initial url n
    refine ⟨k, ?_⟩
    rw [hk, source_of_hook hn hr, bind_assoc, Act.bind_of_ok (hgave.rounds_eq_ok h hother)]
  | parse hp hsourced =>
    refine ⟨pure, ?_⟩
    rw [run_of_parse hp, Act.bind_of_ok (hsourced.source_eq h), bind_pure]

theorem Ends.run_eq {out : Except PluginError Response} (hends : Ends initial url n ds out)
    (h : Chain perform s ds t) : run perform n initial url s = some (out, t) := by
  cases hends with
  | plain hp hsourced =>
    rw [run_of_no_parse hp]
    exact hsourced.source_eq h
  | parsed hp hsourced =>
    obtain ⟨u, h, hinvoke, -⟩ := Chain.snoc_iff.mp h
    rw [run_of_parse hp, Act.bind_of_ok (hsourced.source_eq h)]
    exact hinvoke
  | failed hdue =>
    obtain ⟨u, h, hx, -⟩ := Chain.snoc_iff.mp h
    obtain ⟨k, hk⟩ := hdue.run_eq h
    rw [hk, Act.bind_of_error hx]

theorem Due.run_eq_none {x : Effect} (hdue : Due initial url n ds x) (h : Chain perform s ds t)
    (hx : perform x t = none) : run perform n initial url s = none := by
  obtain ⟨k, hk⟩ := hdue.run_eq h
  rw [hk, Act.bind_of_none hx]

theorem run_eq_none_of_endless (hn : n.request = some hook)
    (hall : ∀ i, ∃ ds r t, Chain perform s ds t ∧ HookGave initial url hook i ds r ∧
      (linkPayload? Link.call r.text).isSome) :
    run perform n initial url s = none := by
  obtain ⟨ds, r, t, h, hgave, -⟩ := hall 0
  obtain ⟨first, u, hfirst, -⟩ := hgave.repeats h
  have hrounds : Act.repeatUntil (answerCall perform hook) first u = none := by
    refine Act.repeatUntil_eq_none_iff.mpr (.inr fun i => ?_)
    obtain ⟨ds, r, t, h, hgave, -⟩ := hall i
    obtain ⟨first', u', hfirst', hi⟩ := hgave.repeats h
    rw [hfirst] at hfirst'
    cases hfirst'
    exact ⟨r, t, hi⟩
  obtain ⟨k, hk⟩ := exists_run_eq_rounds_bind perform initial url hn
  rw [hk, rounds, bind_assoc, Act.bind_of_ok hfirst, Act.bind_of_none hrounds]

/-! ## Every pipeline has a chain -/

section Progress

variable {x : Effect}

/-- The pipeline has ended, or it has come to an effect that does not come to an end. -/
def Settles (perform : Effect → Act σ Response) (n : Node) (initial : Request) (url : String)
    (s : Session σ) : Prop :=
  (∃ ds out t, Chain perform s ds t ∧ Ends initial url n ds out) ∨
    ∃ ds x t, Chain perform s ds t ∧ Due initial url n ds x ∧ perform x t = none

theorem Due.settles_or_answers (happ : ∀ x, (perform x).Appends) (hdue : Due initial url n ds x)
    (h : Chain perform s ds t) :
    Settles perform n initial url s ∨
      ∃ r u seen, Chain perform s (ds ++ [⟨x, .ok r, seen⟩]) u := by
  rcases hx : perform x t with _ | ⟨e | r, u⟩
  · exact .inl (.inr ⟨ds, x, t, h, hdue, hx⟩)
  · obtain ⟨seen, h⟩ := h.extend happ hx
    exact .inl (.inl ⟨_, _, u, h, .failed hdue⟩)
  · obtain ⟨seen, h⟩ := h.extend happ hx
    exact .inr ⟨r, u, seen, h⟩

theorem Sourced.settles (happ : ∀ x, (perform x).Appends) (hsourced : Sourced initial url n ds r)
    (h : Chain perform s ds t) : Settles perform n initial url s := by
  cases hp : n.parse with
  | none => exact .inl ⟨ds, .ok r, t, h, .plain hp hsourced⟩
  | some hook =>
    rcases (Due.parse hp hsourced).settles_or_answers happ h with hdone | ⟨out, u, seen, h⟩
    · exact hdone
    · exact .inl ⟨_, .ok out, u, h, .parsed hp hsourced⟩

theorem HookGave.settles {i : Nat} (happ : ∀ x, (perform x).Appends) (hn : n.request = some hook)
    (hgave : HookGave initial url hook i ds r) (h : Chain perform s ds t)
    (hother : linkPayload? Link.call r.text = none) : Settles perform n initial url s := by
  cases hr : n.isRedirect with
  | true => exact (Sourced.kept hn hgave hother hr).settles happ h
  | false =>
    rcases (Due.last hn hgave hother hr).settles_or_answers happ h with hdone | ⟨fetched, u, seen, h⟩
    · exact hdone
    · exact (Sourced.followed hn hgave hother hr).settles happ h

theorem settles_or_gives (happ : ∀ x, (perform x).Appends) (hn : n.request = some hook) (i : Nat) :
    Settles perform n initial url s ∨
      ∃ ds r t, Chain perform s ds t ∧ HookGave initial url hook i ds r := by
  induction i with
  | zero =>
    rcases (Due.hook hn).settles_or_answers happ (.nil (s := s)) with hdone | ⟨r, u, seen, h⟩
    · exact .inl hdone
    · exact .inr ⟨_, r, u, h, .first⟩
  | succ i ih =>
    rcases ih with hdone | ⟨ds, r, t, h, hgave⟩
    · exact .inl hdone
    cases hcall : linkPayload? Link.call r.text with
    | none => exact .inl (hgave.settles happ hn h hcall)
    | some target =>
      rcases (Due.call hn hgave hcall).settles_or_answers happ h with hdone | ⟨fetched, u, seen, h⟩
      · exact .inl hdone
      rcases (Due.again hn hgave hcall).settles_or_answers happ h with hdone | ⟨next, v, seen', h⟩
      · exact .inl hdone
      · exact .inr ⟨_, next, v, h, .again hgave hcall⟩

/-- A pipeline settles, unless its request hook gives `CALL` links for ever. -/
theorem settles_or_endless (happ : ∀ x, (perform x).Appends) (n : Node) (initial : Request)
    (url : String) (s : Session σ) :
    Settles perform n initial url s ∨
      ∃ hook, n.request = some hook ∧ ∀ i, ∃ ds r t, Chain perform s ds t ∧
        HookGave initial url hook i ds r ∧ (linkPayload? Link.call r.text).isSome := by
  by_cases hdone : Settles perform n initial url s
  · exact .inl hdone
  cases hn : n.request with
  | none =>
    rcases (Due.url hn).settles_or_answers happ (.nil (s := s)) with hdone' | ⟨r, u, seen, h⟩
    · exact .inl hdone'
    · exact .inl ((Sourced.fetched hn).settles happ h)
  | some hook =>
    refine .inr ⟨hook, rfl, fun i => ?_⟩
    obtain ⟨ds, r, t, h, hgave⟩ := (settles_or_gives happ hn i).resolve_left hdone
    refine ⟨ds, r, t, h, hgave, ?_⟩
    cases hcall : linkPayload? Link.call r.text with
    | none => exact absurd (hgave.settles happ hn h hcall) hdone
    | some target => rfl

end Progress

/-- A pipeline ends exactly as its chain does. -/
theorem run_eq_some_iff (happ : ∀ x, (perform x).Appends) {out : Except PluginError Response} :
    run perform n initial url s = some (out, t) ↔
      ∃ ds, Chain perform s ds t ∧ Ends initial url n ds out := by
  constructor
  · intro hrun
    rcases settles_or_endless happ n initial url s with
      (⟨ds, out', t', h, hends⟩ | ⟨ds, x, t', h, hdue, hx⟩) | ⟨hook, hn, hall⟩
    · rw [hends.run_eq h] at hrun
      cases hrun
      exact ⟨ds, h, hends⟩
    · rw [hdue.run_eq_none h hx] at hrun
      cases hrun
    · rw [run_eq_none_of_endless hn hall] at hrun
      cases hrun
  · rintro ⟨ds, h, hends⟩
    exact hends.run_eq h

/-- A pipeline does not come to an end exactly when an effect that is due does not, or when its
request hook gives `CALL` links for ever. -/
theorem run_eq_none_iff (happ : ∀ x, (perform x).Appends) :
    run perform n initial url s = none ↔
      (∃ ds x t, Chain perform s ds t ∧ Due initial url n ds x ∧ perform x t = none) ∨
        ∃ hook, n.request = some hook ∧ ∀ i, ∃ ds r t, Chain perform s ds t ∧
          HookGave initial url hook i ds r ∧ (linkPayload? Link.call r.text).isSome := by
  constructor
  · intro hrun
    rcases settles_or_endless happ n initial url s with
      (⟨ds, out, t, h, hends⟩ | hstuck) | hendless
    · rw [hends.run_eq h] at hrun
      cases hrun
    · exact .inl hstuck
    · exact .inr hendless
  · rintro (⟨ds, x, t, h, hdue, hx⟩ | ⟨hook, hn, hall⟩)
    · exact hdue.run_eq_none h hx
    · exact run_eq_none_of_endless hn hall

end Pipeline

end ContentSource
