import ContentSource.Proofs.Engine.Effects
import ContentSource.Proofs.Script.HookOutcomes
import ContentSource.Proofs.Script.PlainRequirement

/-! # How failing requirements unwind

A script of a plugin, or one of its hooks, requires another script, which requires another one, and
so on until a requirement fails. Where nothing is caught, every requirement on the way back is
reported, from the last to the first, and then the operation itself. Where a script catches what a
requirement throws, nothing more is reported and the operation goes on.
-/
namespace ContentSource

open Script Script.Run

variable {σ α : Type}

def Session.ready (s : Session σ) (m : Machine σ) : Machine σ :=
  { m with host := s.host, events := [] }

namespace Act

variable {s : Session σ} {m n : Machine σ} {g : Setting σ} {y : Run σ (Except PluginError α)}

theorem logged_onMachine_of_ok {a : α} (hm : s.machine = some m)
    (hy : y.act g.context (s.ready m) = .ok (.ok a) n) (plugin : String) :
    logged plugin (onMachine g y) s = some (.ok a, s.resume n) := by
  refine logged_of_ok ?_
  unfold Session.ready at hy
  simp only [onMachine, hm, hy]

theorem logged_onMachine_of_error {e : PluginError} (hm : s.machine = some m)
    (hy : y.act g.context (s.ready m) = .ok (.error e) n) (plugin : String) :
    logged plugin (onMachine g y) s =
      some (.error e, (s.resume n).tell (.error e plugin)) := by
  refine logged_of_error ?_
  unfold Session.ready at hy
  simp only [onMachine, hm, hy]

end Act

namespace Script

variable {g : Setting σ} {c : Context σ} {m n o : Machine σ}

structure Installs (c : Context σ) (m n : Machine σ) : Prop where
  room : ¬(c.limits.memory ≠ 0 ∧ c.limits.memory < leastMemory)
  made : ∃ k, Realm.populate.act c m = .ok () k ∧ Realm.install.act c k = .ok () n

theorem start_of_account {script : String} {reason : Option String} (h : Installs c m n)
    (hrun : (account (describe script) (runScript script)).act c n = .ok reason o) :
    (start script).act c m =
      .ok (reason.elim (.ok ()) fun report => .error (.scriptFailed report)) o := by
  obtain ⟨k, hpopulate, hinstall⟩ := h.made
  have hread : (read : Run σ (Context σ)).act c m = .ok c m := rfl
  rw [start, act_bind_of_ok hread]
  dsimp only
  rw [if_neg h.room, act_bind_of_ok hpopulate, act_bind_of_ok (attempt_ok_iff.mpr hinstall)]
  dsimp only
  cases reason with
  | none =>
    obtain ⟨a, ha⟩ := account_eq_none hrun
    rw [act_bind_of_ok (attempt_ok_iff.mpr ha)]
    rfl
  | some report =>
    obtain ⟨v, k, hv, hreport⟩ := account_eq_some hrun
    rw [act_bind_of_ok (attempt_error_iff.mpr hv)]
    dsimp only
    rw [act_bind_of_ok hreport]
    rfl

theorem invokeHook_of_account {script hook : String} {given : Response} {f : Value} {r : Ref}
    {report : String} (h : Prepares c m hook given f r n)
    (hrun : (account (describe script) (callWith f given r)).act c n = .ok (some report) o) :
    (invokeHook script hook given).act c m =
      .ok (.error (.scriptInvoke (.failed hook report))) o := by
  obtain ⟨v, k, hv, hreport⟩ := account_eq_some hrun
  exact invokeHook_error_iff.mpr (.inl ⟨_, .thrown h hv hreport, rfl⟩)

end Script

namespace Bridge

/-- All that an operation tells from its start on: what it tells until its script or hook runs, what
that tells around the requirements of a chain, and what the chain tells. -/
def toldAround (b : Bridge σ) (n : Machine σ) (before after : List Event) (levels : List Level) :
    List Event :=
  n.events.reverse ++ (before ++ toldBy b.setting.plugin b.setting.request levels ++ after)

variable {b : Bridge σ} {s : Session σ} {m n : Machine σ} {i : Nat} {k : Machine σ} {l : Level}
  {rest : List Level} {before after : List Event} {x : Run σ α} {reason : Option String}

theorem account_of_nests (hchain : Requires b.setting i k (l :: rest))
    (h : Nests b.setting (describe b.script) x mostLevels n reason before after l i k) :
    ∃ o, (account (describe b.script) x).act b.setting.context n = .ok reason o ∧
      o.events.reverse = b.toldAround n before after (l :: rest) := by
  obtain ⟨o, hask, htold⟩ := hchain.asks
  obtain ⟨p, hp, hevents⟩ := h.ends hask htold
  exact ⟨p, hp, by rw [hevents, toldAround]; simp⟩

theorem start_of_act {r : Except StartError Unit} {o : Machine σ}
    (h : (Run.start b.script).act b.setting.context (s.ready m) = .ok r o) :
    (do return (← Run.start b.script).mapError PluginError.scriptInit :
      Run σ (Except PluginError Unit)).act b.setting.context (s.ready m) =
        .ok (r.mapError PluginError.scriptInit) o := by
  rw [act_bind_of_ok h]
  rfl

theorem start_fails {report : String} (hm : s.machine = some m)
    (hchain : Requires b.setting i k (l :: rest)) (hn : Installs b.setting.context (s.ready m) n)
    (h : Nests b.setting (describe b.script) (runScript b.script) mostLevels n (some report) before
      after l i k) :
    ∃ t, b.start s = some (.error (.scriptInit (.scriptFailed report)), t) ∧
      t.trace = s.trace ++ b.toldAround n before after (l :: rest) ++
        [.error (.scriptInit (.scriptFailed report)) b.setting.plugin] := by
  obtain ⟨o, ho, htold⟩ := account_of_nests hchain h
  have hact := start_of_act (start_of_account hn ho)
  refine ⟨_, Act.logged_onMachine_of_error hm hact b.setting.plugin, ?_⟩
  rw [Session.trace_tell, Session.trace_resume, htold]

/-- The script goes on, and loading with it. -/
theorem start_goes_on (hm : s.machine = some m) (hchain : Requires b.setting i k (l :: rest))
    (hn : Installs b.setting.context (s.ready m) n)
    (h : Nests b.setting (describe b.script) (runScript b.script) mostLevels n none before after l i
      k) :
    ∃ t, b.start s = some (.ok (), t) ∧
      t.trace = s.trace ++ b.toldAround n before after (l :: rest) := by
  obtain ⟨o, ho, htold⟩ := account_of_nests hchain h
  have hact := start_of_act (start_of_account hn ho)
  refine ⟨_, Act.logged_onMachine_of_ok hm hact b.setting.plugin, ?_⟩
  rw [Session.trace_resume, htold]

section Hooks

variable {hook : String} {given : Response} {f : Value} {r : Ref}

theorem invoke_fails {report : String} (hm : s.machine = some m)
    (hchain : Requires b.setting i k (l :: rest))
    (hn : Prepares b.setting.context (s.ready m) hook given f r n)
    (h : Nests b.setting (describe b.script) (callWith f given r) mostLevels n (some report) before
      after l i k) :
    ∃ t, b.invoke hook given s = some (.error (.scriptInvoke (.failed hook report)), t) ∧
      t.trace = s.trace ++ b.toldAround n before after (l :: rest) ++
        [.error (.scriptInvoke (.failed hook report)) b.setting.plugin] := by
  obtain ⟨o, ho, htold⟩ := account_of_nests hchain h
  have hact := invokeHook_of_account hn ho
  refine ⟨_, Act.logged_onMachine_of_error hm hact b.setting.plugin, ?_⟩
  rw [Session.trace_tell, Session.trace_resume, htold]

/-- The hook gives a value, of which a response is made as ever. -/
theorem invoke_goes_on (hm : s.machine = some m) (hchain : Requires b.setting i k (l :: rest))
    (hn : Prepares b.setting.context (s.ready m) hook given f r n)
    (h : Nests b.setting (describe b.script) (callWith f given r) mostLevels n none before after l i
      k) :
    ∃ v o, (callWith f given r).act b.setting.context n = .ok v o ∧
      o.events.reverse = b.toldAround n before after (l :: rest) ∧
      ∀ text request p, v = .text text → HoldsRequest b.setting.context o r request p →
        b.invoke hook given s = some (.ok (.ofText text request given.location), s.resume p) := by
  obtain ⟨o, ho, htold⟩ := account_of_nests hchain h
  obtain ⟨v, hv⟩ := account_eq_none ho
  refine ⟨v, o, hv, htold, ?_⟩
  rintro text request p rfl hrequest
  have hact : (invokeHook b.script hook given).act b.setting.context (s.ready m) =
      .ok (.ok (.ofText text request given.location)) p :=
    invokeHook_ok_iff.mpr ⟨text, r, o, request, ⟨f, n, hn, hv⟩, hrequest, rfl⟩
  exact Act.logged_onMachine_of_ok hm hact b.setting.plugin

end Hooks

/-- A chain of requirements is fetched on the way in, and on the way out each requirement that fails
is reported, the last one first. A failing requirement that is caught nowhere on the way makes the
run around it fail. A script or hook that fails makes the operation fail, which is reported last; if
a script catches what a requirement throws, then nothing more is reported, and the operation goes
on. What scripts tell around the requirements stands where they tell it. -/
theorem requirements_unwind (hm : s.machine = some m) (hchain : Requires b.setting i k (l :: rest)) :
    (∀ (γ : Type) (x : Run σ γ) j n, Exposes b.setting (ask l.url) i k x j n → l.reason ≠ none →
      ∃ v p, x.act (contextAt b.setting j) n = .error (.thrown v) p ∧
        ∀ say report o, (say v).act (contextAt b.setting j) p = .ok report o →
          ∃ before after, Nests b.setting say x j n (some report) before after l i k) ∧
    (∀ n before after report, Installs b.setting.context (s.ready m) n →
      Nests b.setting (describe b.script) (runScript b.script) mostLevels n (some report) before
        after l i k →
      ∃ t, b.start s = some (.error (.scriptInit (.scriptFailed report)), t) ∧
        t.trace = s.trace ++ b.toldAround n before after (l :: rest) ++
          [.error (.scriptInit (.scriptFailed report)) b.setting.plugin]) ∧
    (∀ n before after, Installs b.setting.context (s.ready m) n →
      Nests b.setting (describe b.script) (runScript b.script) mostLevels n none before after l i
        k →
      ∃ t, b.start s = some (.ok (), t) ∧
        t.trace = s.trace ++ b.toldAround n before after (l :: rest)) ∧
    (∀ hook given f r n before after report,
      Prepares b.setting.context (s.ready m) hook given f r n →
      Nests b.setting (describe b.script) (callWith f given r) mostLevels n (some report) before
        after l i k →
      ∃ t, b.invoke hook given s = some (.error (.scriptInvoke (.failed hook report)), t) ∧
        t.trace = s.trace ++ b.toldAround n before after (l :: rest) ++
          [.error (.scriptInvoke (.failed hook report)) b.setting.plugin]) ∧
    (∀ hook given f r n before after, Prepares b.setting.context (s.ready m) hook given f r n →
      Nests b.setting (describe b.script) (callWith f given r) mostLevels n none before after l i
        k →
      ∃ v o, (callWith f given r).act b.setting.context n = .ok v o ∧
        o.events.reverse = b.toldAround n before after (l :: rest) ∧
        ∀ text request p, v = .text text → HoldsRequest b.setting.context o r request p →
          b.invoke hook given s = some (.ok (.ofText text request given.location), s.resume p)) ∧
    (∀ x ∈ l :: rest, ∀ e ∈ x.before ++ x.after, Told b.setting.plugin b.setting.request e) ∧
    ∀ passed failed, l :: rest = passed ++ failed → (∀ x ∈ passed, x.reason = none) →
      (∀ x ∈ failed, x.reason ≠ none) → (∀ x ∈ l :: rest, x.Quiet) →
      toldBy b.setting.plugin b.setting.request (l :: rest) =
        (l :: rest).map (fun x => .fetch x.url b.setting.request) ++
          failed.reverse.map fun x =>
            .error (.scriptInvoke (.notLoaded x.url (x.reason.getD ""))) b.setting.plugin :=
  ⟨fun _ _ _ _ h hfails => hchain.exposed h hfails,
    fun _ _ _ _ hn h => start_fails hm hchain hn h, fun _ _ _ hn h => start_goes_on hm hchain hn h,
    fun _ _ _ _ _ _ _ _ hn h => invoke_fails hm hchain hn h,
    fun _ _ _ _ _ _ _ hn h => invoke_goes_on hm hchain hn h, hchain.told,
    fun _ _ hsplit hpassed hfailed hquiet => by
      rw [hsplit] at hquiet ⊢
      exact toldBy_of_quiet hpassed hfailed hquiet⟩

/-! ## Two scripts that require a third one -/

def plainScript : String := "require('c')"

def patientScript : String := "try \x7b require('c'); \x7d catch (e) \x7b \x7d"

def missing : Failure := ⟨"not there", []⟩

def shelf : Setting Unit where
  host :=
    { request := fun url r s =>
        if url = "a" then (.ok ⟨Text.Utf8.encode plainScript, r, url⟩, s)
        else if url = "b" then (.ok ⟨Text.Utf8.encode patientScript, r, url⟩, s)
        else (.error missing, s)
      functions := .empty }
  plugin := "shelf"
  request := .initial
  limits := ⟨0, 0⟩

def tally (say : Value → Run σ String) (x : Run σ α) (c : Context σ) (m : Machine σ) :
    Option (Bool × Nat) :=
  match (account say x).act c m with
  | .ok reason n => some (reason.isSome, n.events.length)
  | .error _ _ => none

theorem exists_of_tally {say : Value → Run σ String} {c : Context σ} {fails : Bool} {count : Nat}
    (h : tally say x c m = some (fails, count)) :
    ∃ reason o, (account say x).act c m = .ok reason o ∧ reason.isSome = fails ∧
      o.events.length = count := by
  unfold tally at h
  split at h
  · rename_i reason o ho
    cases h
    exact ⟨reason, o, ho, rfl, rfl⟩
  · cases h

def asksOnly (n : Machine Unit) (r : Ref) : Machine Unit := n.evaluating.asking r ⟨1, 1⟩ ⟨1, 8⟩

def Tallies (n : Machine Unit) (r : Ref) : Prop :=
  n.events = [] ∧ n.frames = [] ∧
    tally brief (load plainScript) (contextAt shelf (mostLevels - 3))
      ((asksOnly n r).fetched () "a" .initial) = some (true, 3) ∧
    tally brief (load patientScript) (contextAt shelf (mostLevels - 3))
      ((asksOnly n r).fetched () "b" .initial) = some (false, 3) ∧
    tally (describe "require('a')") (runScript "require('a')") shelf.context n = some (true, 4) ∧
    tally (describe "require('b')") (runScript "require('b')") shelf.context n = some (false, 3)

instance (n : Machine Unit) (r : Ref) : Decidable (Tallies n r) :=
  inferInstanceAs (Decidable (_ ∧ _ ∧ _ ∧ _ ∧ _ ∧ _))

/-- Whether this holds of the machine that is made from another one. It is evaluated at once, since
making the machine takes longest. -/
def tallies (m : Machine Unit) : Bool :=
  match Realm.populate.act shelf.context m with
  | .ok _ k =>
    match Realm.install.act shelf.context k with
    | .ok _ n =>
      match n.offered? with
      | some r => decide (Tallies n r)
      | none => false
    | .error _ _ => false
  | .error _ _ => false

theorem exists_of_tallies {m : Machine Unit} (h : tallies m = true) :
    ∃ n r, Installs shelf.context m n ∧ n.Offers r ∧ Tallies n r := by
  unfold tallies at h
  split at h
  · rename_i k hpopulate
    split at h
    · rename_i n hinstall
      split at h
      · rename_i r hr
        exact ⟨n, r, ⟨by simp [shelf, Setting.context], k, hpopulate, hinstall⟩,
          Machine.offers_of_offered? hr, of_decide_eq_true h⟩
      · cases h
    · cases h
  · cases h

section Shelf

variable {n k : Machine Unit} {r : Ref} {i : Nat} {url source : String} {fails : Bool}

theorem deepens_asksOnly (n : Machine Unit) (r : Ref) : n.Deepens (asksOnly n r) 2 :=
  (n.deepens_entered _).trans (Machine.deepens_asking _ _ _ _)

theorem offers_fetched (h : n.Offers r) (hidle : n.frames = []) (url : String) :
    ((asksOnly n r).fetched () url .initial).Offers r ∧
      ((asksOnly n r).fetched () url .initial).frames.length + 1 < callLimit shelf.limits := by
  have hdeepens := deepens_asksOnly n r
  obtain ⟨hunbound, houtermost, hglobal, hbuiltin⟩ := h.deepens hdeepens
  refine ⟨⟨hunbound, houtermost, hglobal, hbuiltin⟩, ?_⟩
  change (asksOnly n r).frames.length + 1 < _
  rw [hdeepens.frames, hidle]
  decide

/-- Asking for one of the two scripts that the transport has, which requires the one it has not. -/
theorem chain_of_tally
    (hfetch : shelf.host.request url shelf.request () =
      (.ok ⟨Text.Utf8.encode source, .initial, url⟩, ()))
    (htext : (⟨Text.Utf8.encode source, .initial, url⟩ : Response).text = source)
    (hsilent : n.events = [])
    (hreach : Reaches shelf (ask "c") i k (load source) (mostLevels - 3)
      ((asksOnly n r).fetched () url .initial))
    (htally : tally brief (load source) (contextAt shelf (mostLevels - 3))
      ((asksOnly n r).fetched () url .initial) = some (fails, 3)) :
    ∃ reason, reason.isSome = fails ∧ Requires shelf (mostLevels - 3) (asksOnly n r)
      [⟨url, reason, [], []⟩, ⟨"c", some missing.chain, [], []⟩] := by
  obtain ⟨reason, o, ho, hfails, hlength⟩ := exists_of_tally htally
  have hmissing : Requires shelf i k [⟨"c", some missing.chain, [], []⟩] :=
    .unfetched (s := ()) (f := missing) rfl
  refine ⟨reason, hfails, .nested (s := ()) hfetch ?_ hmissing⟩
  rw [htext]
  refine hreach.nests_quietly hmissing ho ?_
  have hevents : (asksOnly n r).events = [] := (deepens_asksOnly n r).events.trans hsilent
  rw [hlength]
  simp [Machine.fetched, hevents, toldBy, Level.opening, Level.closing, reportOn]

theorem reaches_main (h : n.Offers r) (hidle : n.frames = [])
    (hsource : requirement? source = some (url, ⟨1, 1⟩, ⟨1, 8⟩)) :
    Reaches shelf (ask url) (mostLevels - 3) (asksOnly n r) (runScript source) mostLevels n :=
  (h.exposes_requirement hsource (by rw [hidle]; decide)).reaches

theorem chain_a (h : n.Offers r) (hn : Tallies n r) :
    ∃ reason, Requires shelf (mostLevels - 3) (asksOnly n r)
      [⟨"a", some reason, [], []⟩, ⟨"c", some missing.chain, [], []⟩] := by
  obtain ⟨hsilent, hidle, hplain, -⟩ := hn
  obtain ⟨hoffers, hroom⟩ := offers_fetched h hidle "a"
  have hsource : requirement? plainScript = some ("c", ⟨1, 1⟩, ⟨1, 8⟩) := by decide +kernel
  have hreach := (hoffers.exposes_requirement (i := mostLevels - 7) hsource hroom).reaches.load
  obtain ⟨reason, hfails, hchain⟩ :=
    chain_of_tally rfl (by decide +kernel) hsilent hreach hplain
  obtain ⟨reason, rfl⟩ := Option.isSome_iff_exists.mp hfails
  exact ⟨reason, hchain⟩

theorem chain_b (h : n.Offers r) (hn : Tallies n r) :
    Requires shelf (mostLevels - 3) (asksOnly n r)
      [⟨"b", none, [], []⟩, ⟨"c", some missing.chain, [], []⟩] := by
  obtain ⟨hsilent, hidle, -, hpatient, -⟩ := hn
  obtain ⟨hoffers, hroom⟩ := offers_fetched h hidle "b"
  have hsource : triedRequirement? patientScript = some ("c", ⟨1, 7⟩, ⟨1, 14⟩) := by decide +kernel
  have hreach := (hoffers.reaches_tried_requirement (i := mostLevels - 8) hsource hroom).load
  obtain ⟨reason, hfails, hchain⟩ :=
    chain_of_tally rfl (by decide +kernel) hsilent hreach hpatient
  obtain rfl := Option.not_isSome_iff_eq_none.mp (Bool.eq_false_iff.mp hfails)
  exact hchain

end Shelf

theorem tallies_eq : tallies ((Session.initial ()).ready (.empty ())) = true := by
  decide +kernel

/-- A plugin whose script requires a script that requires a missing one does not load, and each
requirement is reported. If the second script catches what that throws, the plugin loads, and only
the requirement of the missing script is reported. -/
theorem shelf_unwinds :
    (∃ reason report t, (⟨shelf, "require('a')"⟩ : Bridge Unit).start (.initial ()) =
        some (.error (.scriptInit (.scriptFailed report)), t) ∧
      t.trace = [.fetch "a" .initial, .fetch "c" .initial,
        .error (.scriptInvoke (.notLoaded "c" missing.chain)) "shelf",
        .error (.scriptInvoke (.notLoaded "a" reason)) "shelf",
        .error (.scriptInit (.scriptFailed report)) "shelf"]) ∧
    ∃ t, (⟨shelf, "require('b')"⟩ : Bridge Unit).start (.initial ()) = some (.ok (), t) ∧
      t.trace = [.fetch "b" .initial, .fetch "c" .initial,
        .error (.scriptInvoke (.notLoaded "c" missing.chain)) "shelf"] := by
  obtain ⟨n, r, hinstalls, hoffers, htallies⟩ := exists_of_tallies tallies_eq
  have hmachine : (Session.initial ()).machine = some (Machine.empty ()) := rfl
  have hb := chain_b hoffers htallies
  obtain ⟨reason, ha⟩ := chain_a hoffers htallies
  obtain ⟨hsilent, hidle, -, -, hfails, hgoesOn⟩ := htallies
  constructor
  · obtain ⟨report, o, ho, hreport, hlength⟩ := exists_of_tally hfails
    obtain ⟨report, rfl⟩ := Option.isSome_iff_exists.mp hreport
    have hsource : requirement? "require('a')" = some ("a", ⟨1, 1⟩, ⟨1, 8⟩) := by decide +kernel
    have hreach := reaches_main hoffers hidle hsource
    have hnests := hreach.nests_quietly (l := ⟨"a", some reason, [], []⟩) ha ho (by
      rw [hlength, hsilent]
      rfl)
    obtain ⟨-, hstart, -⟩ :=
      requirements_unwind (b := ⟨shelf, "require('a')"⟩) (s := .initial ()) hmachine ha
    obtain ⟨t, ht, htrace⟩ := hstart n [] [] report hinstalls hnests
    refine ⟨reason, report, t, ht, ?_⟩
    rw [htrace, toldAround, hsilent]
    rfl
  · obtain ⟨outcome, o, ho, houtcome, hlength⟩ := exists_of_tally hgoesOn
    obtain rfl := Option.not_isSome_iff_eq_none.mp (Bool.eq_false_iff.mp houtcome)
    have hsource : requirement? "require('b')" = some ("b", ⟨1, 1⟩, ⟨1, 8⟩) := by decide +kernel
    have hreach := reaches_main hoffers hidle hsource
    have hnests := hreach.nests_quietly (l := ⟨"b", none, [], []⟩) hb ho (by
      rw [hlength, hsilent]
      rfl)
    obtain ⟨-, -, hstart, -⟩ :=
      requirements_unwind (b := ⟨shelf, "require('b')"⟩) (s := .initial ()) hmachine hb
    obtain ⟨t, ht, htrace⟩ := hstart n [] [] hinstalls hnests
    refine ⟨t, ht, ?_⟩
    rw [htrace, toldAround, hsilent]
    rfl

end Bridge

end ContentSource
