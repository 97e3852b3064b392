import ContentSource.Proofs.Script.Nesting
import Mathlib.Data.List.Basic

/-! # Nested requirements

A script that requires another one may find that it fails: it cannot be fetched, or it throws. The
requirement is then reported and thrown in turn, so a script in the middle of a chain fails by the
requirement that it makes, unless it catches what that throws. What a whole chain tells follows from
how each of its scripts takes the requirement that it makes: the fetches on the way in, and on the
way out a report for each requirement that fails.
-/
namespace ContentSource.Script

variable {σ α : Type} {g : Setting σ} {c : Context σ} {m n : Machine σ}

@[simp] theorem contextAt_host (g : Setting σ) (i : Nat) : (contextAt g i).host = g.host := by
  cases i <;> rfl

def Machine.fetched (m : Machine σ) (host : σ) (url : String) (r : Request) : Machine σ :=
  { m with host := host, events := .fetch url r :: m.events }

namespace Run

/-! ## What becomes of one requirement -/

def account (say : Value → Run σ String) (x : Run σ α) : Run σ (Option String) := do
  match ← attempt x with
  | .ok _ => return none
  | .error v => return some (← say v)

theorem loadText_eq (source : String) :
    loadText (σ := σ) source = account brief (load source) := by
  unfold loadText account
  refine congrArg (attempt (load source) >>= ·) (funext fun r => ?_)
  cases r <;> rfl

theorem account_eq_none {say : Value → Run σ String} {x : Run σ α}
    (h : (account say x).act c m = .ok none n) : ∃ a, x.act c m = .ok a n := by
  obtain ⟨r, k, hr, hrest⟩ := act_eq_ok_of_bind h
  cases r with
  | ok a =>
    cases hrest
    exact ⟨a, attempt_ok_iff.mp hr⟩
  | error v =>
    obtain ⟨said, o, -, hdone⟩ := act_eq_ok_of_bind hrest
    cases hdone

theorem account_eq_some {say : Value → Run σ String} {x : Run σ α} {report : String}
    (h : (account say x).act c m = .ok (some report) n) :
    ∃ v k, x.act c m = .error (.thrown v) k ∧ (say v).act c k = .ok report n := by
  obtain ⟨r, k, hr, hrest⟩ := act_eq_ok_of_bind h
  cases r with
  | ok a => cases hrest
  | error v =>
    obtain ⟨said, o, hsaid, hdone⟩ := act_eq_ok_of_bind hrest
    cases hdone
    exact ⟨v, k, attempt_error_iff.mp hr, hsaid⟩

theorem account_of_throws {say : Value → Run σ String} {x : Run σ α} {v : Value} {report : String}
    {k : Machine σ} (hx : x.act c m = .error (.thrown v) k)
    (hsay : (say v).act c k = .ok report n) : (account say x).act c m = .ok (some report) n := by
  rw [account, act_bind_of_ok (attempt_error_iff.mpr hx)]
  dsimp only
  rw [act_bind_of_ok hsay]
  rfl

theorem notLoaded_isAboutScript (url reason : String) :
    (PluginError.scriptInvoke (.notLoaded url reason)).isAboutScript = true := rfl

def settle (url : String) (reason : Option String) : Run σ Value :=
  reason.elim (return .undefined) fun reason =>
    logAndThrow (.scriptInvoke (.notLoaded url reason)) (notLoaded_isAboutScript url reason)

def ask (url : String) : Run σ Value := do
  match ← transport url with
  | .ok response => loadText response.text >>= settle url
  | .error failure => settle url (some failure.chain)

/-- A call of `require` has its first argument as a text and then asks for that address. -/
theorem require_cons (v : Value) (rest : List Value) :
    require (σ := σ) (v :: rest) = hostText v >>= ask := by
  refine congrArg (hostText v >>= ·) (funext fun url => ?_)
  refine congrArg (transport url >>= ·) (funext fun answer => ?_)
  cases answer with
  | ok response =>
    refine congrArg (loadText response.text >>= ·) (funext fun reason => ?_)
    cases reason <;> rfl
  | error failure => rfl

end Run

open Run

/-- A requirement ends with an exception if there is a reason for it to fail, else with nothing. -/
def Ended (out : EStateM.Result Stop (Machine σ) Value) : Option String → Machine σ → Prop
  | none, n => out = .ok .undefined n
  | some _, n => ∃ v, out = .error (.thrown v) n

def reportOn (plugin url : String) (reason : Option String) : List Event :=
  reason.toList.map fun r => .error (.scriptInvoke (.notLoaded url r)) plugin

@[simp] theorem reverse_reportOn (plugin url : String) (reason : Option String) :
    (reportOn plugin url reason).reverse = reportOn plugin url reason := by
  cases reason <;> rfl

theorem settle_ended (c : Context σ) (m : Machine σ) (url : String) (reason : Option String) :
    ∃ n, Ended ((settle url reason).act c m) reason n ∧
      n.events = reportOn c.plugin url reason ++ m.events := by
  cases reason with
  | none => exact ⟨m, rfl, rfl⟩
  | some r => exact ⟨_, ⟨_, rfl⟩, rfl⟩

section Asking

variable {i : Nat} {url : String} {s : σ}

theorem ask_of_answer {a : Response}
    (h : g.host.request url g.request m.host = (.ok a, s)) :
    (ask url).act (contextAt g i) m =
      (loadText a.text >>= settle url).act (contextAt g i) (m.fetched s url g.request) := by
  have htransport : (transport url).act (contextAt g i) m =
      .ok (.ok a) (m.fetched s url g.request) := by
    simp only [transport, Host.transport, contextAt_host, contextAt_request, h]
    rfl
  exact act_bind_of_ok htransport

theorem ask_of_failure {f : Failure} (h : g.host.request url g.request m.host = (.error f, s)) :
    (ask url).act (contextAt g i) m =
      (settle url (some f.chain)).act (contextAt g i) (m.fetched s url g.request) := by
  have htransport : (transport url).act (contextAt g i) m =
      .ok (.error f) (m.fetched s url g.request) := by
    simp only [transport, Host.transport, contextAt_host, contextAt_request, h]
    rfl
  exact act_bind_of_ok htransport

end Asking

/-! ## Chains of requirements -/

/-- A requirement in a chain: its address, why it fails if it does, and what its script tells apart
from the requirement that it makes in turn, before that and after it. -/
structure Level where
  url : String
  reason : Option String
  before : List Event
  after : List Event

namespace Level

def opening (request : Request) (l : Level) : List Event := .fetch l.url request :: l.before

def closing (plugin : String) (l : Level) : List Event :=
  l.after ++ reportOn plugin l.url l.reason

def Quiet (l : Level) : Prop := l.before = [] ∧ l.after = []

end Level

def toldBy (plugin : String) (request : Request) (levels : List Level) : List Event :=
  levels.flatMap (Level.opening request) ++ levels.reverse.flatMap (Level.closing plugin)

theorem toldBy_cons (plugin : String) (request : Request) (l : Level) (rest : List Level) :
    toldBy plugin request (l :: rest) =
      l.opening request ++ toldBy plugin request rest ++ l.closing plugin := by
  simp [toldBy]

/-- Where scripts tell nothing of their own, there are the fetches, and then a report for each
requirement that fails. -/
theorem toldBy_of_quiet {plugin : String} {request : Request} {passed failed : List Level}
    (hpassed : ∀ l ∈ passed, l.reason = none) (hfailed : ∀ l ∈ failed, l.reason ≠ none)
    (hquiet : ∀ l ∈ passed ++ failed, l.Quiet) :
    toldBy plugin request (passed ++ failed) =
      (passed ++ failed).map (fun l => .fetch l.url request) ++
        failed.reverse.map fun l =>
          .error (.scriptInvoke (.notLoaded l.url (l.reason.getD ""))) plugin := by
  have hopening : ∀ l ∈ passed ++ failed, l.opening request = [.fetch l.url request] := by
    intro l hl
    rw [Level.opening, (hquiet l hl).1]
  have hclosing : ∀ l ∈ failed.reverse, l.closing plugin =
      [.error (.scriptInvoke (.notLoaded l.url (l.reason.getD ""))) plugin] := by
    intro l hl
    have hl := List.mem_reverse.mp hl
    obtain ⟨reason, hreason⟩ := Option.ne_none_iff_exists'.mp (hfailed l hl)
    rw [Level.closing, (hquiet l (List.mem_append_right _ hl)).2, hreason]
    rfl
  have hnothing : passed.reverse.flatMap (Level.closing plugin) = [] := by
    refine List.flatMap_eq_nil_iff.mpr fun l hl => ?_
    have hl := List.mem_reverse.mp hl
    rw [Level.closing, (hquiet l (List.mem_append_left _ hl)).2, hpassed l hl]
    rfl
  rw [toldBy, List.flatMap_congr hopening, ← List.map_eq_flatMap, List.reverse_append,
    List.flatMap_append, List.flatMap_congr hclosing, ← List.map_eq_flatMap, hnothing,
    List.append_nil]

/-- A run comes to a requirement. However this ends, the run goes on to an end of its own, with a
reason if it fails. -/
structure Nests (g : Setting σ) (say : Value → Run σ String) (x : Run σ α) (i : Nat)
    (m : Machine σ) (reason : Option String) (before after : List Event) (l : Level) (j : Nat)
    (k : Machine σ) : Prop where
  reaches : Reaches g (ask l.url) j k x i m
  before : k.events = before.reverse ++ m.events
  goesOn : ∀ n, Ended ((ask l.url).act (contextAt g j) k) l.reason n →
    ∃ o, (account say x).act (contextAt g i) m = .ok reason o ∧
      o.events = after.reverse ++ n.events

/-- Scripts that require each other, from the address that is asked for first to a script that
cannot be fetched or that fails by itself. -/
inductive Requires (g : Setting σ) : Nat → Machine σ → List Level → Prop
  | unfetched {i : Nat} {m : Machine σ} {url : String} {f : Failure} {s : σ} :
    g.host.request url g.request m.host = (.error f, s) →
    Requires g i m [⟨url, some f.chain, [], []⟩]
  | failed {i : Nat} {m n : Machine σ} {url reason : String} {a : Response} {s : σ}
    {told : List Event} : g.host.request url g.request m.host = (.ok a, s) →
    (account brief (load a.text)).act (contextAt g i) (m.fetched s url g.request) =
      .ok (some reason) n →
    n.events = told.reverse ++ (m.fetched s url g.request).events →
    Requires g i m [⟨url, some reason, told, []⟩]
  | nested {i j : Nat} {m k : Machine σ} {url : String} {reason : Option String}
    {before after : List Event} {a : Response} {s : σ} {l : Level} {rest : List Level} :
    g.host.request url g.request m.host = (.ok a, s) →
    Nests g brief (load a.text) i (m.fetched s url g.request) reason before after l j k →
    Requires g j k (l :: rest) →
    Requires g i m (⟨url, reason, before, after⟩ :: l :: rest)

/-- A run around a requirement tells what it tells before it, what the requirement tells, and the
rest. -/
theorem Nests.ends {say : Value → Run σ String} {x : Run σ α} {i j : Nat} {k : Machine σ}
    {reason : Option String} {before after told : List Event} {l : Level}
    (h : Nests g say x i m reason before after l j k)
    (hn : Ended ((ask l.url).act (contextAt g j) k) l.reason n)
    (htold : n.events = told.reverse ++ k.events) :
    ∃ o, (account say x).act (contextAt g i) m = .ok reason o ∧
      o.events = (before ++ told ++ after).reverse ++ m.events := by
  obtain ⟨o, ho, hafter⟩ := h.goesOn n hn
  exact ⟨o, ho, by rw [hafter, htold, h.before]; simp⟩

/-- One more requirement around a chain opens before it and closes behind it. -/
theorem Nests.asks {i j : Nat} {m k n : Machine σ} {url : String} {reason : Option String}
    {before after : List Event} {a : Response} {s : σ} {l : Level} {rest : List Level}
    (h : Nests g brief (load a.text) i (m.fetched s url g.request) reason before after l j k)
    (ha : g.host.request url g.request m.host = (.ok a, s))
    (hn : Ended ((ask l.url).act (contextAt g j) k) l.reason n)
    (htold : n.events = (toldBy g.plugin g.request (l :: rest)).reverse ++ k.events) :
    ∃ p, Ended ((ask url).act (contextAt g i) m) reason p ∧
      p.events = (toldBy g.plugin g.request
        (⟨url, reason, before, after⟩ :: l :: rest)).reverse ++ m.events := by
  obtain ⟨o, ho, hevents⟩ := h.ends hn htold
  obtain ⟨p, hp, hreport⟩ := settle_ended (contextAt g i) o url reason
  rw [← loadText_eq] at ho
  refine ⟨p, ?_, ?_⟩
  · rw [ask_of_answer ha, act_bind_of_ok ho]
    exact hp
  · rw [hreport, hevents, toldBy_cons _ _ ⟨url, reason, before, after⟩]
    simp [Level.opening, Level.closing, Machine.fetched]

/-- The first requirement of a chain ends as it is said to, and all that is told meanwhile is what
the chain tells. -/
theorem Requires.asks {i : Nat} {m : Machine σ} {l : Level} {rest : List Level}
    (h : Requires g i m (l :: rest)) :
    ∃ n, Ended ((ask l.url).act (contextAt g i) m) l.reason n ∧
      n.events = (toldBy g.plugin g.request (l :: rest)).reverse ++ m.events := by
  generalize hlevels : l :: rest = levels at h
  induction h generalizing l rest with
  | @unfetched i m url f s hf =>
    cases hlevels
    obtain ⟨n, hn, hreport⟩ :=
      settle_ended (contextAt g i) (m.fetched s url g.request) url (some f.chain)
    refine ⟨n, ?_, ?_⟩
    · rw [ask_of_failure hf]
      exact hn
    · rw [hreport]
      simp [toldBy, Level.opening, Level.closing, Machine.fetched, reportOn]
  | @failed i m o url reason a s told ha ho htold =>
    cases hlevels
    obtain ⟨n, hn, hreport⟩ := settle_ended (contextAt g i) o url (some reason)
    refine ⟨n, ?_, ?_⟩
    · rw [ask_of_answer ha, loadText_eq, act_bind_of_ok ho]
      exact hn
    · rw [hreport, htold]
      simp [toldBy, Level.opening, Level.closing, Machine.fetched, reportOn]
  | @nested i j m k url reason before after a s l' rest' ha hnests _ ih =>
    cases hlevels
    obtain ⟨n, hn, htold⟩ := ih rfl
    exact hnests.asks ha hn htold

/-! ## What scripts tell of their own -/

theorem Reaches.account {β : Type} {y : Run σ β} {x : Run σ α} {i j : Nat} {k : Machine σ}
    (h : Reaches g y j k x i m) (say : Value → Run σ String) :
    Reaches g y j k (account say x) i m := .first h.attempt

theorem Ended.after_eq {x : Action σ Value} {reason : Option String} (h : Ended (x m) reason n) :
    x.after m = n := by
  cases reason with
  | none => rw [Action.after, show x m = .ok .undefined n from h]
  | some r =>
    obtain ⟨v, hv⟩ := h
    rw [Action.after, hv]

section Nesting

variable {say : Value → Run σ String} {x : Run σ α} {i j : Nat} {k o : Machine σ}
  {reason : Option String} {before after : List Event} {l : Level}

/-- What has been told between a requirement and the end of the run around it. -/
theorem Reaches.adds_account (h : Reaches g (ask l.url) j k x i m)
    (hn : Ended ((ask l.url).act (contextAt g j) k) l.reason n)
    (ho : (Run.account say x).act (contextAt g i) m = .ok reason o) : Adds g n o := by
  have hall := (h.account say).adds.2
  rwa [hn.after_eq, Action.after, ho] at hall

/-- Whenever a run comes to a requirement and both end, the one nests the other. -/
theorem Reaches.exists_nests (h : Reaches g (ask l.url) j k x i m)
    (hn : Ended ((ask l.url).act (contextAt g j) k) l.reason n)
    (ho : (Run.account say x).act (contextAt g i) m = .ok reason o) :
    ∃ before after, Nests g say x i m reason before after l j k := by
  obtain ⟨told, htold, -⟩ := h.adds.1
  obtain ⟨more, hmore, -⟩ := h.adds_account hn ho
  refine ⟨told.reverse, more.reverse, h, by simpa using htold, fun n' hn' => ⟨o, ho, ?_⟩⟩
  rw [← hn'.after_eq, hn.after_eq]
  simpa using hmore

/-- Where nothing is told apart from what the chain tells, there is nothing around it. -/
theorem Reaches.nests_quietly {rest : List Level} (h : Reaches g (ask l.url) j k x i m)
    (hchain : Requires g j k (l :: rest))
    (ho : (Run.account say x).act (contextAt g i) m = .ok reason o)
    (hlength : o.events.length = m.events.length + (toldBy g.plugin g.request (l :: rest)).length) :
    Nests g say x i m reason [] [] l j k := by
  obtain ⟨n, hn, htold⟩ := hchain.asks
  obtain ⟨before, after, hnests⟩ := h.exists_nests hn ho
  obtain ⟨o', ho', hevents⟩ := hnests.ends hn htold
  obtain rfl : o' = o := by simpa using ho'.symm.trans ho
  have hnone : before.length + after.length = 0 := by
    have := congrArg List.length hevents
    simp only [List.length_append, List.length_reverse] at this
    omega
  obtain rfl : before = [] := List.eq_nil_of_length_eq_zero (by omega)
  obtain rfl : after = [] := List.eq_nil_of_length_eq_zero (by omega)
  exact hnests

theorem Nests.told (h : Nests g say x i m reason before after l j k)
    (hn : Ended ((ask l.url).act (contextAt g j) k) l.reason n) :
    ∀ e ∈ before ++ after, Told g.plugin g.request e := by
  obtain ⟨told, htold, hall⟩ := h.reaches.adds.1
  obtain ⟨o, ho, hafter⟩ := h.goesOn n hn
  obtain ⟨more, hmore, hall'⟩ := h.reaches.adds_account hn ho
  have hbefore := htold.symm.trans h.before
  rw [List.append_cancel_right_eq] at hbefore
  rw [hmore, List.append_cancel_right_eq] at hafter
  intro e he
  rcases List.mem_append.mp he with he | he
  · exact hall e (by simp [hbefore, he])
  · exact hall' e (by simp [hafter, he])

end Nesting

/-- A requirement that fails and is caught nowhere on the way makes the run around it fail. -/
theorem Requires.exposed {i j : Nat} {k : Machine σ} {x : Run σ α} {l : Level} {rest : List Level}
    (hchain : Requires g i k (l :: rest)) (h : Exposes g (ask l.url) i k x j m)
    (hfails : l.reason ≠ none) :
    ∃ v p, x.act (contextAt g j) m = .error (.thrown v) p ∧
      ∀ say report o, (say v).act (contextAt g j) p = .ok report o →
        ∃ before after, Nests g say x j m (some report) before after l i k := by
  obtain ⟨n, hn, -⟩ := hchain.asks
  have hthrows : ∃ v, (ask l.url).act (contextAt g i) k = .error (.thrown v) n := by
    cases hreason : l.reason with
    | none => exact absurd hreason hfails
    | some reason => rwa [hreason] at hn
  obtain ⟨v, hv⟩ := hthrows
  obtain ⟨p, hp⟩ := h.throws hv
  exact ⟨v, p, hp, fun say report o ho => h.reaches.exists_nests hn (account_of_throws hp ho)⟩

theorem Requires.told {i : Nat} {m : Machine σ} {levels : List Level} (h : Requires g i m levels) :
    ∀ l ∈ levels, ∀ e ∈ l.before ++ l.after, Told g.plugin g.request e := by
  induction h with
  | unfetched => simp
  | @failed i m n url reason a s told _ ho htold =>
    obtain ⟨more, hmore, hall⟩ := Adds.of_ok ho
    rw [hmore, List.append_cancel_right_eq] at htold
    simpa [htold] using hall
  | nested _ hnests hrest ih =>
    intro l hl
    rcases List.mem_cons.mp hl with rfl | hl
    · obtain ⟨n, hn, -⟩ := hrest.asks
      exact hnests.told hn
    · exact ih l hl

end ContentSource.Script
