import ContentSource.Proofs.Engine.Effects
import ContentSource.Proofs.Script.HookOutcomes
import ContentSource.Proofs.Script.RequestObjects

/-! # Requests that go through a hook

A request that a hook leaves alone comes back as it was, but for a field named `__proto__`: the
object that the hook gets has no such property, since the assignment of it goes to the setter that
all objects share. Every other name comes back, also one that all objects have by inheritance, and
the charset comes back from its name.
-/
namespace ContentSource

def Request.without (r : Request) (name : String) : Request :=
  ⟨r.headers.without name, r.form.without name, r.charset⟩

theorem Fields.without_eq_self_iff {β : Type} {m : Fields β} {name : String} :
    m.without name = m ↔ m.get? name = none := by
  constructor
  · intro h
    rw [← h, Fields.get?_without, if_pos rfl]
  · intro h
    refine Fields.ext_get? fun other => ?_
    rw [Fields.get?_without]
    by_cases hother : other = name
    · rw [if_pos hother, hother, h]
    · rw [if_neg hother]

theorem Request.without_eq_self_iff {r : Request} {name : String} :
    r.without name = r ↔ r.headers.get? name = none ∧ r.form.get? name = none := by
  rw [← Fields.without_eq_self_iff, ← Fields.without_eq_self_iff]
  cases r
  simp [Request.without]

/-- The name of a charset is one of its labels. -/
theorem Charset.ofLabel?_name {c : Charset} (h : c.canEncode = true) :
    ofLabel? c.name = some c := by
  cases c with
  | singleByte t => cases t <;> decide +kernel
  | replacement | utf16be | utf16le => exact absurd h (by decide)
  | _ => decide +kernel

namespace Script.Run

open Text (Units)

variable {σ : Type} {c : Context σ} {j : Machine σ} {q r headers form : Ref}

theorem own?_eq_of_textProps {l : List (String × String)} {u : Units} {p : Property}
    (h : (objectOf (textProps l)).own? (.name u) = some p) :
    ∃ f ∈ l, u = Units.ofString f.1 := by
  rw [own?_objectOf, Option.map_eq_some_iff] at h
  obtain ⟨kp, hfind, -⟩ := h
  obtain ⟨f, hf, hkp⟩ := List.mem_map.mp (List.mem_of_find?_eq_some hfind)
  have hkey : kp.1 = .name u := by simpa using List.find?_some hfind
  rw [← hkp] at hkey
  exact ⟨f, hf, (Key.name.inj hkey).symm⟩

theorem holdsTexts_fieldsObject {fields : Fields String} (h : j.objectAt q = fieldsObject fields) :
    HoldsTexts j q (fields.without "__proto__") := by
  refine ⟨fun u p hown _ => ?_, fun name text hget => ?_⟩
  · rw [Machine.own?, h] at hown
    obtain ⟨f, hf, rfl⟩ := own?_eq_of_textProps hown
    exact ⟨f.1, f.2, rfl, Fields.get?_eq_some_iff.mpr hf⟩
  · refine ⟨true, true, ?_⟩
    rw [Machine.own?, h, fieldsObject, own?_textProps]
    obtain ⟨f, hf, rfl⟩ := Option.map_eq_some_iff.mp hget
    rw [hf]
    rfl

theorem holdsRequest_of_objects {request : Request} (hw : request.Writable)
    (hr : j.objectAt r = requestOf request headers form)
    (hheaders : j.objectAt headers = fieldsObject request.headers)
    (hform : j.objectAt form = fieldsObject request.form) :
    HoldsRequest c j r (request.without "__proto__") j := by
  have hown : ∀ k, j.own? r k = (requestOf request headers form).own? k := fun k => by
    rw [Machine.own?, hr]
  have hread : ∀ name v, (requestOf request headers form).own? (Key.ofString name) =
      some (.ofValue v) → Reads c j r (Key.ofString name) v j := by
    intro name v h
    exact getObject_of_data (Machine.find?_of_own? ((hown _).trans h))
  have hlabel := Charset.ofLabel?_name (Request.writable_iff.mp hw)
  refine ⟨request.charset.name, j, j, ?_, hlabel, ?_, ?_⟩
  · exact hread _ _ (by simp [requestOf, own?_objectOf])
  · exact (holdsTexts_fieldsObject hheaders).readsMap
      (hread _ _ (by simp [requestOf, own?_objectOf]))
  · exact (holdsTexts_fieldsObject hform).readsMap
      (hread _ _ (by simp [requestOf, own?_objectOf]))

def Untouched (m made j : Machine σ) : Prop :=
  ∀ q, m.objects.size ≤ q → q < made.objects.size → j.objectAt q = made.objectAt q

/-- A request that a hook leaves alone comes back without its fields named `__proto__`, and as it
was where it has none. -/
theorem requests_come_back (g : Setting σ) (n : Nat) (m : Machine σ) (given : Response)
    (hm : m.OrdinaryPrototype) (hroom : HasRoom g m) (hw : given.request.Writable) :
    (given.request.without "__proto__" = given.request ↔
      given.request.headers.get? "__proto__" = none ∧
        given.request.form.get? "__proto__" = none) ∧
    ∃ r made, (requestObject given.request).act (contextAt g (n + 1)) m = .ok r made ∧
      (∀ j, Untouched m made j → (readRequest r).actOn (contextAt g (n + 1)) j =
        .ok (.ok (given.request.without "__proto__")) j) ∧
      ∀ script hook f text before j,
        Reads (contextAt g (n + 1)) before globalRef (Key.ofString hook) f m →
        m.callable f = true →
        (callWith f given r).act (contextAt g (n + 1)) made = .ok (.text text) j →
        Untouched m made j →
        (invokeHook script hook given).act (contextAt g (n + 1)) before =
          .ok (.ok (.ofText text (given.request.without "__proto__") given.location)) j := by
  have hmade := requestObject_act (n := n) hm hroom given.request
  have hholds : ∀ j, Untouched m (m.withRequest given.request) j →
      HoldsRequest (contextAt g (n + 1)) j (m.objects.size + 2)
        (given.request.without "__proto__") j := by
    intro j hj
    have hsize : (m.withRequest given.request).objects.size = m.objects.size + 3 :=
      Machine.size_withRequest
    have hself := hj (m.objects.size + 2) (by omega) (by omega)
    have hheaders := hj m.objects.size (by omega) (by omega)
    have hform := hj (m.objects.size + 1) (by omega) (by omega)
    rw [Machine.objectAt_withRequest_self] at hself
    rw [Machine.objectAt_withRequest_headers] at hheaders
    rw [Machine.objectAt_withRequest_form] at hform
    exact holdsRequest_of_objects hw hself hheaders hform
  refine ⟨Request.without_eq_self_iff, _, _, hmade,
    fun j hj => readRequest_ok_iff.mpr (hholds j hj), ?_⟩
  intro script hook f text before j hread hf hcall hj
  have hgives : GivesText (contextAt g (n + 1)) before hook given text (m.objects.size + 2) j :=
    ⟨f, _, ⟨m, hread, hf, hmade⟩, hcall⟩
  exact invokeHook_ok_iff.mpr ⟨text, _, j, _, hgives, hholds j hj, rfl⟩

/-! ## A hook that leaves its request alone -/

instance (g : Setting σ) (m : Machine σ) : Decidable (HasRoom g m) :=
  inferInstanceAs (Decidable (_ < _))

def ordinaryProperty : Key × Property → Bool
  | (.symbol _, _) => true
  | (.name _, ⟨.data _ w, _, _⟩) => w
  | (k, ⟨.accessor .., _, _⟩) => k == protoKey

def hasSetter (m : Machine σ) : Option Property → Bool
  | some ⟨.accessor _ (.object f), _, _⟩ =>
    decide (f < m.objects.size) &&
      match (m.objectAt f).cls with
      | .function (.builtin (.object .setProto)) _ => true
      | _ => false
  | _ => false

def isPlain : Class → Bool
  | .plain => true
  | _ => false

def ordinary (m : Machine σ) : Bool :=
  let o := m.objectAt objectProto
  decide (objectProto < m.objects.size) && o.proto.isNone && isPlain o.cls &&
    o.props.toList.all ordinaryProperty && hasSetter m (o.find? protoKey)

theorem ordinaryPrototype_of_ordinary {m : Machine σ} (h : ordinary m = true) :
    m.OrdinaryPrototype := by
  simp only [ordinary, Bool.and_eq_true, decide_eq_true_eq, Option.isNone_iff_eq_none,
    List.all_eq_true] at h
  obtain ⟨⟨⟨⟨hmade, hlast⟩, hplain⟩, hprops⟩, hsetter⟩ := h
  have hown : ∀ k, m.own? objectProto k = (m.objectAt objectProto).find? k := by
    intro k
    rw [Machine.own?, Object.own?]
    cases hcls : (m.objectAt objectProto).cls with
    | plain => rfl
    | _ => simp [isPlain, hcls] at hplain
  refine ⟨hmade, hlast, fun s p hp hkey => ?_, ?_⟩
  · rw [hown, Object.find?, Option.map_eq_some_iff] at hp
    obtain ⟨⟨k, p'⟩, hfind, rfl⟩ := hp
    obtain rfl : k = .name s := by simpa using Array.find?_some hfind
    have hp' := hprops _ (Array.mem_toList_iff.mpr (Array.mem_of_find?_eq_some hfind))
    obtain ⟨slot, e, g⟩ := p'
    cases slot with
    | data v w =>
      obtain rfl : w = true := hp'
      exact ⟨v, rfl⟩
    | accessor getter setter =>
      simp only [ordinaryProperty, beq_iff_eq] at hp'
      exact absurd hp' hkey
  · rw [← hown] at hsetter
    unfold hasSetter at hsetter
    split at hsetter
    · rename_i getter f e g hproto
      simp only [Bool.and_eq_true, decide_eq_true_eq] at hsetter
      obtain ⟨hf, hcls⟩ := hsetter
      split at hcls
      · rename_i b hset
        exact ⟨getter, f, b, _, hproto, rfl, hf, hset⟩
      · cases hcls
    · cases hsetter

def keeper : String := "function keep(text, location, request) \x7b return 'kept'; \x7d"

def keeping : Setting Unit := ⟨Host.echoing, "keeper", .initial, ⟨0, 0⟩⟩

def keeperMachine : Machine Unit := ((start keeper).act keeping.context).after (.empty ())

/-- A response whose request has headers by two names that all objects have besides. -/
def keeperGiven : Response :=
  ⟨[], ⟨.ofList [("__proto__", "a"), ("constructor", "b")], .empty, .utf8⟩, "NULL::text"⟩

def keeperResult : Response :=
  .ofText "kept" ⟨.ofList [("constructor", "b")], .empty, .utf8⟩ "NULL::text"

def keeperSucceeds : Bool :=
  ordinary keeperMachine && decide (HasRoom keeping keeperMachine) &&
    match (invokeHook keeper "keep" keeperGiven).act keeping.context keeperMachine with
    | .ok (.ok a) _ => a == keeperResult
    | _ => false

/-- These facts are evaluated together, since making the machine takes longest. -/
theorem keeperSucceeds_eq : keeperSucceeds = true := by decide +kernel

theorem keeper_facts : keeperMachine.OrdinaryPrototype ∧ HasRoom keeping keeperMachine ∧
    ∃ n, (invokeHook keeper "keep" keeperGiven).act keeping.context keeperMachine =
      .ok (.ok keeperResult) n := by
  have h := keeperSucceeds_eq
  simp only [keeperSucceeds, Bool.and_eq_true, decide_eq_true_eq] at h
  obtain ⟨⟨hordinary, hroom⟩, hresult⟩ := h
  refine ⟨ordinaryPrototype_of_ordinary hordinary, hroom, ?_⟩
  split at hresult
  · rename_i a n hrun
    obtain rfl : a = keeperResult := by simpa using hresult
    exact ⟨n, hrun⟩
  · cases hresult

/-- The objects made for a request are read back as it, but for the name. -/
theorem keeper_comes_back : keeperMachine.OrdinaryPrototype ∧ HasRoom keeping keeperMachine ∧
    keeperGiven.request.Writable ∧
    ∃ r made, (requestObject keeperGiven.request).act (contextAt keeping 30) keeperMachine =
        .ok r made ∧
      (readRequest r).actOn (contextAt keeping 30) made =
        .ok (.ok (keeperGiven.request.without "__proto__")) made := by
  obtain ⟨hm, hroom, -⟩ := keeper_facts
  have hw : keeperGiven.request.Writable := rfl
  obtain ⟨-, r, made, hmade, hread, -⟩ :=
    requests_come_back keeping 29 keeperMachine keeperGiven hm hroom hw
  exact ⟨hm, hroom, hw, r, made, hmade, hread made fun _ _ _ => rfl⟩

/-- A header named `__proto__` does not come back, though the hook never touches its request. -/
theorem proto_header_is_lost : keeperMachine.OrdinaryPrototype ∧
    keeperGiven.request.Writable ∧
    ∃ a n, (invokeHook keeper "keep" keeperGiven).act keeping.context keeperMachine =
        .ok (.ok a) n ∧ a.request ≠ keeperGiven.request := by
  obtain ⟨hm, -, n, hrun⟩ := keeper_facts
  exact ⟨hm, rfl, keeperResult, n, hrun, by decide +kernel⟩

end Script.Run

end ContentSource
