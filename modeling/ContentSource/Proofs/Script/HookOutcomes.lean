import ContentSource.Proofs.Script.Contained
import ContentSource.Proofs.Script.OwnTexts

/-! # What becomes of a call of a hook

A hook succeeds exactly when its global is a function, the object for the request can be made, the
call gives a text, and that object then names a charset that can encode and has two maps of texts.
Each way to fail has its own error: up to the text it is one of the call, behind it one of the
object left behind, whatever else is wrong with that object.
-/
namespace ContentSource.Script.Run

open Text (Units)

variable {σ : Type}

/-- The global with the name of a hook is a function, and an object is made for the request. -/
def Prepares (c : Context σ) (m : Machine σ) (hook : String) (given : Response) (f : Value)
    (r : Ref) (n : Machine σ) : Prop :=
  ∃ k, Reads c m globalRef (Key.ofString hook) f k ∧ k.callable f = true ∧
    (requestObject given.request).act c k = .ok r n

def callWith (f : Value) (given : Response) (r : Ref) : Run σ Value :=
  call f .undefined [.text given.text, .text given.location, .object r]

def GivesText (c : Context σ) (m : Machine σ) (hook : String) (given : Response) (text : String)
    (r : Ref) (n : Machine σ) : Prop :=
  ∃ f k, Prepares c m hook given f r k ∧ (callWith f given r).act c k = .ok (.text text) n

/-- A hook cannot be called or gives no text; the first thing that goes wrong counts. -/
inductive CallFails (c : Context σ) (m : Machine σ) (script hook : String) (given : Response) :
    InvokeError → Machine σ → Prop
  | unread {n : Machine σ} (h : ReadThrows c m globalRef (Key.ofString hook) n) :
    CallFails c m script hook given (.unreadable hook unreadable) n
  | notAFunction {n : Machine σ} {f : Value} (h : Reads c m globalRef (Key.ofString hook) f n)
    (hf : n.callable f = false) :
    CallFails c m script hook given (.notAFunction hook (n.kindOf f)) n
  | notPassed {k n : Machine σ} {f v : Value} (h : Reads c m globalRef (Key.ofString hook) f k)
    (hf : k.callable f = true)
    (hr : (requestObject given.request).act c k = .error (.thrown v) n) :
    CallFails c m script hook given (.requestNotPassed hook unreadable) n
  | thrown {k j n : Machine σ} {f v : Value} {r : Ref} {report : String}
    (h : Prepares c m hook given f r k)
    (hcall : (callWith f given r).act c k = .error (.thrown v) j)
    (hreport : (describe script v).act c j = .ok report n) :
    CallFails c m script hook given (.failed hook report) n
  | notAString {k n : Machine σ} {f v : Value} {r : Ref} (h : Prepares c m hook given f r k)
    (hcall : (callWith f given r).act c k = .ok v n) (hv : ∀ s, v ≠ .string s) :
    CallFails c m script hook given (.notAString hook (n.kindOf v)) n
  | broken {k n : Machine σ} {f : Value} {r : Ref} {s : Units} {bytes : Nat}
    (h : Prepares c m hook given f r k) (hcall : (callWith f given r).act c k = .ok (.string s) n)
    (hs : s.toString = .error bytes) :
    CallFails c m script hook given (.badString hook (brokenText bytes)) n

section

variable {c : Context σ} {m n : Machine σ} {script hook : String} {given : Response} {f v : Value}
  {r : Ref} {e : InvokeError}

/-! ## The call -/

theorem hookFunction_of_callable (hread : Reads c m globalRef (Key.ofString hook) f n)
    (hf : n.callable f = true) : (hookFunction hook).actOn c m = .ok (.ok f) n := by
  rw [hookFunction, Checked.actOn_bind_of_ok (orElse_ok_iff.mpr hread),
    Checked.actOn_bind_of_looks (looks_isCallable f), if_pos hf]
  rfl

theorem hookFunction_of_other (hread : Reads c m globalRef (Key.ofString hook) f n)
    (hf : n.callable f = false) :
    (hookFunction hook).actOn c m = .ok (.error (.notAFunction hook (n.kindOf f))) n := by
  rw [hookFunction, Checked.actOn_bind_of_ok (orElse_ok_iff.mpr hread),
    Checked.actOn_bind_of_looks (looks_isCallable f), if_neg (by simp [hf])]
  exact Checked.refuse_act

theorem hookFunction_ok_iff :
    (hookFunction hook).actOn c m = .ok (.ok f) n ↔
      Reads c m globalRef (Key.ofString hook) f n ∧ n.callable f = true := by
  refine ⟨fun h => ?_, fun h => hookFunction_of_callable h.1 h.2⟩
  obtain ⟨f', k, hread, -⟩ := Checked.bind_ok_iff.mp h
  replace hread : Reads c m globalRef (Key.ofString hook) f' k := orElse_ok_iff.mp hread
  cases hf : k.callable f' with
  | true =>
    rw [hookFunction_of_callable hread hf] at h
    cases h
    exact ⟨hread, hf⟩
  | false =>
    rw [hookFunction_of_other hread hf] at h
    cases h

theorem hookFunction_error_iff :
    (hookFunction hook).actOn c m = .ok (.error e) n ↔
      (ReadThrows c m globalRef (Key.ofString hook) n ∧ e = .unreadable hook unreadable) ∨
        ∃ f, Reads c m globalRef (Key.ofString hook) f n ∧ n.callable f = false ∧
          e = .notAFunction hook (n.kindOf f) := by
  constructor
  · intro h
    rcases Checked.bind_error_iff.mp h with hthrows | ⟨f, k, hread, -⟩
    · exact .inl (orElse_same_error_iff.mp hthrows)
    · replace hread : Reads c m globalRef (Key.ofString hook) f k := orElse_ok_iff.mp hread
      cases hf : k.callable f with
      | true =>
        rw [hookFunction_of_callable hread hf] at h
        cases h
      | false =>
        rw [hookFunction_of_other hread hf] at h
        cases h
        exact .inr ⟨f, hread, hf, rfl⟩
  · rintro (⟨hthrows, rfl⟩ | ⟨f, hread, hf, rfl⟩)
    · exact Checked.bind_error_iff.mpr (.inl (orElse_same_error_iff.mpr ⟨hthrows, rfl⟩))
    · exact hookFunction_of_other hread hf

theorem hookText_of_other (h : ∀ s, v ≠ .string s) :
    (hookText hook v).actOn c m = .ok (.error (.notAString hook (m.kindOf v))) m := by
  cases v with
  | string s => exact absurd rfl (h s)
  | _ => exact Checked.refuse_act (f := InvokeError.notAString hook)

theorem hookText_ok_iff {text : String} :
    (hookText hook v).actOn c m = .ok (.ok text) n ↔ v = .text text ∧ n = m := by
  by_cases h : ∃ s, v = .string s
  · obtain ⟨s, rfl⟩ := h
    simp only [hookText, Value.text, Value.string.injEq, ← Units.toString_eq_ok_iff]
    cases hs : s.toString with
    | ok t =>
      simp only [Checked.pure_ok_iff, Except.ok.injEq]
      exact and_congr_left' eq_comm
    | error bytes => simp [Checked.throw_not_ok]
  · simp only [not_exists] at h
    rw [hookText_of_other h]
    simp only [EStateM.Result.ok.injEq, reduceCtorEq, false_and, false_iff, not_and]
    exact fun hv => absurd hv (h _)

theorem hookText_error_iff :
    (hookText hook v).actOn c m = .ok (.error e) n ↔
      (((∀ s, v ≠ .string s) ∧ e = .notAString hook (m.kindOf v)) ∨
        ∃ s bytes, v = .string s ∧ s.toString = .error bytes ∧
          e = .badString hook (brokenText bytes)) ∧ n = m := by
  by_cases h : ∃ s, v = .string s
  · obtain ⟨s, rfl⟩ := h
    simp only [hookText]
    cases hs : s.toString with
    | ok t => simp [Checked.pure_not_error, hs]
    | error bytes => simp [Checked.throw_error_iff, hs]
  · simp only [not_exists] at h
    rw [hookText_of_other h]
    constructor
    · intro heq
      cases heq
      exact ⟨.inl ⟨h, rfl⟩, rfl⟩
    · rintro ⟨⟨-, rfl⟩ | ⟨s, bytes, rfl, -⟩, rfl⟩
      · rfl
      · exact absurd rfl (h s)

theorem callHook_ok_iff {text : String} :
    (callHook script hook given).actOn c m = .ok (.ok (text, r)) n ↔
      GivesText c m hook given text r n := by
  simp only [callHook, Checked.bind_ok_iff, hookFunction_ok_iff, orElse_ok_iff, hookText_ok_iff,
    Checked.pure_ok_iff, Prod.mk.injEq]
  constructor
  · rintro ⟨f, k, ⟨hread, hf⟩, r', j, hr, v, i, hcall, t, i', ⟨rfl, rfl⟩, ⟨rfl, rfl⟩, rfl⟩
    exact ⟨f, j, ⟨k, hread, hf, hr⟩, hcall⟩
  · rintro ⟨f, j, ⟨k, hread, hf, hr⟩, hcall⟩
    exact ⟨f, k, ⟨hread, hf⟩, r, j, hr, _, n, hcall, text, n, ⟨rfl, rfl⟩, ⟨rfl, rfl⟩, rfl⟩

theorem callHook_error_iff :
    (callHook script hook given).actOn c m = .ok (.error e) n ↔
      CallFails c m script hook given e n := by
  simp only [callHook, Checked.bind_error_iff, hookFunction_ok_iff, hookFunction_error_iff,
    orElse_ok_iff, orElse_error_iff, hookText_ok_iff, hookText_error_iff, Checked.pure_not_error,
    and_false, exists_false, or_false]
  constructor
  · rintro ((⟨hthrows, rfl⟩ | ⟨f, hread, hf, rfl⟩) | ⟨f, k, ⟨hread, hf⟩, ⟨v, i, hr, hdone⟩ |
      ⟨r, j, hr, (⟨v, i, hcall, hreport⟩ | ⟨v, i, hcall, hv, rfl⟩)⟩⟩)
    · exact .unread hthrows
    · exact .notAFunction hread hf
    · cases hdone
      exact .notPassed hread hf hr
    · obtain ⟨report, i', hreport, hdone⟩ := act_bind_eq_ok_iff.mp hreport
      cases hdone
      exact .thrown ⟨k, hread, hf, hr⟩ hcall hreport
    · rcases hv with ⟨hv, rfl⟩ | ⟨s, bytes, rfl, hs, rfl⟩
      · exact .notAString ⟨k, hread, hf, hr⟩ hcall hv
      · exact .broken ⟨k, hread, hf, hr⟩ hcall hs
  · intro h
    cases h with
    | unread hthrows => exact .inl (.inl ⟨hthrows, rfl⟩)
    | notAFunction hread hf => exact .inl (.inr ⟨_, hread, hf, rfl⟩)
    | notPassed hread hf hr => exact .inr ⟨_, _, ⟨hread, hf⟩, .inl ⟨_, n, hr, rfl⟩⟩
    | thrown h hcall hreport =>
      obtain ⟨k, hread, hf, hr⟩ := h
      refine .inr ⟨_, k, ⟨hread, hf⟩, .inr ⟨_, _, hr, .inl ⟨_, _, hcall, ?_⟩⟩⟩
      exact act_bind_of_ok hreport
    | notAString h hcall hv =>
      obtain ⟨k, hread, hf, hr⟩ := h
      exact .inr ⟨_, k, ⟨hread, hf⟩, .inr ⟨_, _, hr, .inr ⟨_, n, hcall, .inl ⟨hv, rfl⟩, rfl⟩⟩⟩
    | broken h hcall hs =>
      obtain ⟨k, hread, hf, hr⟩ := h
      exact .inr ⟨_, k, ⟨hread, hf⟩,
        .inr ⟨_, _, hr, .inr ⟨_, n, hcall, .inr ⟨_, _, rfl, hs, rfl⟩, rfl⟩⟩⟩

/-! ## The response -/

theorem invokeHook_ok_iff {a : Response} :
    (invokeHook script hook given).act c m = .ok (.ok a) n ↔
      ∃ text r k request, GivesText c m hook given text r k ∧ HoldsRequest c k r request n ∧
        a = .ofText text request given.location := by
  constructor
  · intro h
    obtain ⟨called, k, hcall, hrest⟩ := act_bind_eq_ok_iff.mp h
    cases called with
    | error e => cases hrest
    | ok called =>
      obtain ⟨text, r⟩ := called
      obtain ⟨read, j, hread, hdone⟩ := act_bind_eq_ok_iff.mp hrest
      cases read with
      | error e => cases hdone
      | ok request =>
        cases hdone
        exact ⟨text, r, k, request, callHook_ok_iff.mp hcall, readRequest_ok_iff.mp hread, rfl⟩
  · rintro ⟨text, r, k, request, hgives, hholds, rfl⟩
    rw [invokeHook_of_call (callHook_ok_iff.mpr hgives)]
    exact act_bind_of_ok (readRequest_ok_iff.mpr hholds)

theorem invokeHook_error_iff {e : PluginError} :
    (invokeHook script hook given).act c m = .ok (.error e) n ↔
      (∃ cause, CallFails c m script hook given cause n ∧ e = .scriptInvoke cause) ∨
        ∃ text r k cause, GivesText c m hook given text r k ∧ RequestRefused c k r cause n ∧
          e = .invalidResult cause := by
  constructor
  · intro h
    obtain ⟨called, k, hcall, hrest⟩ := act_bind_eq_ok_iff.mp h
    cases called with
    | error cause =>
      cases hrest
      exact .inl ⟨cause, callHook_error_iff.mp hcall, rfl⟩
    | ok called =>
      obtain ⟨text, r⟩ := called
      obtain ⟨read, j, hread, hdone⟩ := act_bind_eq_ok_iff.mp hrest
      cases read with
      | ok request => cases hdone
      | error cause =>
        cases hdone
        exact .inr ⟨text, r, k, cause, callHook_ok_iff.mp hcall, readRequest_error_iff.mp hread,
          rfl⟩
  · rintro (⟨cause, hfails, rfl⟩ | ⟨text, r, k, cause, hgives, hrefused, rfl⟩)
    · exact act_bind_of_ok (callHook_error_iff.mpr hfails)
    · rw [invokeHook_of_call (callHook_ok_iff.mpr hgives)]
      exact act_bind_of_ok (readRequest_error_iff.mpr hrefused)

/-- A call that gives a text has not failed, wherever the two would end. -/
theorem CallFails.not_givesText {j : Machine σ} {text : String}
    (h : CallFails c m script hook given e n) : ¬GivesText c m hook given text r j := by
  intro hgives
  have heq := (callHook_error_iff.mpr h).symm.trans (callHook_ok_iff.mpr hgives)
  cases heq

end

/-- What becomes of a call of a hook, in whatever machine it is called: when it succeeds and with
what, when it fails and with which error, and that nothing it throws is thrown on. The last two
parts say which properties a map of the new request has. -/
theorem hook_outcome (c : Context σ) (m : Machine σ) (script hook : String) (given : Response) :
    (∀ a n, (invokeHook script hook given).act c m = .ok (.ok a) n ↔
      ∃ text r k request, GivesText c m hook given text r k ∧ HoldsRequest c k r request n ∧
        a = .ofText text request given.location) ∧
    (∀ cause n, (invokeHook script hook given).act c m = .ok (.error (.scriptInvoke cause)) n ↔
      CallFails c m script hook given cause n) ∧
    (∀ cause n, (invokeHook script hook given).act c m = .ok (.error (.invalidResult cause)) n ↔
      ∃ text r k, GivesText c m hook given text r k ∧ RequestRefused c k r cause n) ∧
    (∀ e n, (invokeHook script hook given).act c m = .ok (.error e) n →
      ((∃ text r k, GivesText c m hook given text r k) ∧ ∃ cause, e = .invalidResult cause) ∨
        (¬∃ text r k, GivesText c m hook given text r k) ∧ ∃ cause, e = .scriptInvoke cause) ∧
    (∀ v n, (invokeHook script hook given).act c m ≠ .error (.thrown v) n) ∧
    (∀ k r part fields n, ReadsMap c k r part fields n →
      ∃ q j, Reads c k r (Key.ofString part) (.object q) j ∧
        ∀ name, (fields.get? name).isSome = true ↔
          ∃ p, j.own? q (Key.ofString name) = some p ∧ p.enumerable = true) ∧
    (∀ k r part q j, Reads c k r (Key.ofString part) (.object q) j → HoldsValues j q →
      ∀ fields n, ReadsMap c k r part fields n ↔ n = j ∧ HoldsTexts j q fields) := by
  refine ⟨fun a n => invokeHook_ok_iff, fun cause n => ?_, fun cause n => ?_, fun e n h => ?_,
    fun v n h => neverThrows_invokeHook script hook given h, fun k r part fields n h => h.own,
    fun k r part q j hread hvalues fields n => readsMap_iff_of_values hread hvalues⟩
  · rw [invokeHook_error_iff]
    constructor
    · rintro (⟨_, hfails, heq⟩ | ⟨_, _, _, _, _, _, heq⟩)
      · cases heq
        exact hfails
      · cases heq
    · exact fun hfails => .inl ⟨cause, hfails, rfl⟩
  · rw [invokeHook_error_iff]
    constructor
    · rintro (⟨_, _, heq⟩ | ⟨text, r, k, _, hgives, hrefused, heq⟩)
      · cases heq
      · cases heq
        exact ⟨text, r, k, hgives, hrefused⟩
    · rintro ⟨text, r, k, hgives, hrefused⟩
      exact .inr ⟨text, r, k, cause, hgives, hrefused, rfl⟩
  · rcases invokeHook_error_iff.mp h with ⟨cause, hfails, rfl⟩ |
      ⟨text, r, k, cause, hgives, -, rfl⟩
    · refine .inr ⟨?_, cause, rfl⟩
      rintro ⟨text, r, k, hgives⟩
      exact hfails.not_givesText hgives
    · exact .inl ⟨⟨text, r, k, hgives⟩, cause, rfl⟩

end ContentSource.Script.Run
