import ContentSource.Proofs.Script.OwnTexts
import ContentSource.Script.Interpreter

/-! # Objects made for requests

For a request three objects are made: one for the headers, one for the form, and one that holds both
and names the charset. Fields become properties by assignment. As long as the prototype of all
objects is as it was made, each assignment makes a property of the object itself, with one
exception: the prototype has a setter for `__proto__`, and that takes no text.
-/
namespace ContentSource.Script

open Text (Units)

variable {σ : Type}

def protoKey : Key := Key.ofString "__proto__"

/-! ## The machine with one object more -/

namespace Machine

def push (m : Machine σ) (o : Object) : Machine σ := { m with objects := m.objects.push o }

variable {m n : Machine σ} {o : Object} {k : Key} {q : Ref}

@[simp] theorem size_push : (m.push o).objects.size = m.objects.size + 1 := Array.size_push _

@[simp] theorem objectAt_push_self : (m.push o).objectAt m.objects.size = o := by
  simp [objectAt, push]

theorem objectAt_push_of_lt (h : q < m.objects.size) : (m.push o).objectAt q = m.objectAt q := by
  simp [objectAt, push, Array.getElem?_push, Nat.ne_of_lt h]

theorem own?_push_self : (m.push o).own? m.objects.size k = o.own? k := by
  rw [own?, objectAt_push_self]

/-- The prototype of all objects is as it was made: it has none itself, a setter for `__proto__`
that is built in, and every other property with a name can be assigned. -/
structure OrdinaryPrototype (m : Machine σ) : Prop where
  made : objectProto < m.objects.size
  last : (m.objectAt objectProto).proto = none
  assignable : ∀ s p, m.own? objectProto (.name s) = some p → .name s ≠ protoKey →
    ∃ v, p.slot = .data v true
  setter : ∃ g f b p, m.own? objectProto protoKey = some p ∧ p.slot = .accessor g (.object f) ∧
    f < m.objects.size ∧ (m.objectAt f).cls = .function (.builtin (.object .setProto)) b

theorem OrdinaryPrototype.push (h : OrdinaryPrototype m) (o : Object) :
    OrdinaryPrototype (m.push o) := by
  have hproto : (m.push o).objectAt objectProto = m.objectAt objectProto :=
    objectAt_push_of_lt h.made
  have hown : ∀ k, (m.push o).own? objectProto k = m.own? objectProto k := fun k => by
    rw [own?, hproto, own?]
  refine ⟨?_, ?_, ?_, ?_⟩
  · rw [size_push]
    exact Nat.lt_succ_of_lt h.made
  · rw [hproto, h.last]
  · intro s p hp
    rw [hown] at hp
    exact h.assignable s p hp
  · obtain ⟨g, f, b, p, hp, hslot, hf, hcls⟩ := h.setter
    refine ⟨g, f, b, p, ?_, hslot, ?_, ?_⟩
    · rw [hown, hp]
    · rw [size_push]
      exact Nat.lt_succ_of_lt hf
    · rw [objectAt_push_of_lt hf, hcls]

end Machine

/-! ## New objects -/

def objectOf (props : List (Key × Property)) : Object :=
  ⟨some objectProto, .plain, props.toArray, true⟩

theorem own?_objectOf {props : List (Key × Property)} {k : Key} :
    (objectOf props).own? k = (props.find? fun p => p.1 == k).map Prod.snd := by
  simp [Object.own?, objectOf, Object.find?]

namespace Run

variable {c : Context σ} {m : Machine σ} {props : List (Key × Property)} {k : Key} {v : Value}

theorem newObject_act : newObject.act c m = .ok m.objects.size (m.push (objectOf [])) := rfl

/-- Behind the object itself only the prototype of all objects is looked at. -/
theorem find?_of_new (hm : m.OrdinaryPrototype) (hnew : (objectOf props).own? k = none) :
    (m.push (objectOf props)).find? m.objects.size k = m.own? objectProto k := by
  have hproto : (m.push (objectOf props)).objectAt objectProto = m.objectAt objectProto :=
    Machine.objectAt_push_of_lt hm.made
  have hnext : (objectOf props).proto = some objectProto := rfl
  rw [Machine.find?, Machine.size_push, Machine.lookup?, Machine.own?_push_self, hnew,
    Machine.objectAt_push_self, hnext]
  simp only [Machine.lookup?, Machine.own?, hproto, hm.last]
  cases (m.objectAt objectProto).own? k <;> rfl

theorem setObject_act {o o' : Object} :
    (setObject m.objects.size o').act c (m.push o) = .ok () (m.push o') := by
  have hset : (m.objects.push o).setIfInBounds m.objects.size o' = m.objects.push o' := by
    apply Array.toList_inj.mp
    simp
  change EStateM.Result.ok () (Machine.mk ((m.objects.push o).setIfInBounds _ o') _ _ _ _ _) = _
  rw [hset]
  rfl

theorem assignOwn_act (hnew : (objectOf props).own? k = none) :
    (assignOwn m.objects.size k v).act c (m.push (objectOf props)) =
      .ok () (m.push (objectOf (props ++ [(k, .ofValue v)]))) := by
  have hobject : (object m.objects.size).act c (m.push (objectOf props)) =
      .ok (objectOf props) (m.push (objectOf props)) :=
    (looks_object _).sees Machine.objectAt_push_self
  have hown : (getOwn m.objects.size k).act c (m.push (objectOf props)) =
      .ok none (m.push (objectOf props)) :=
    (looks_getOwn _ _).sees (Machine.own?_push_self.trans hnew)
  have hput : (objectOf props).put k (.ofValue v) = objectOf (props ++ [(k, .ofValue v)]) := by
    rw [Object.put_of_find?_eq_none hnew]
    simp [objectOf]
  have hputOwn : (putOwn m.objects.size k (.ofValue v)).act c (m.push (objectOf props)) =
      .ok () (m.push (objectOf (props ++ [(k, .ofValue v)]))) := by
    rw [putOwn, act_bind_of_ok hobject, hput]
    exact setObject_act
  rw [assignOwn, act_bind_of_ok hobject, act_bind_of_ok hown]
  exact hputOwn

theorem setNamed_act {name : String} (hm : m.OrdinaryPrototype)
    (hnew : (objectOf props).own? (Key.ofString name) = none) (hname : name ≠ "__proto__") :
    (setNamed m.objects.size name v).act c (m.push (objectOf props)) =
      .ok () (m.push (objectOf (props ++ [(Key.ofString name, .ofValue v)]))) := by
  have hfind : (find m.objects.size (Key.ofString name)).act c (m.push (objectOf props)) =
      .ok (m.own? objectProto (Key.ofString name)) (m.push (objectOf props)) :=
    (looks_find _ _).sees (find?_of_new hm hnew)
  rw [setNamed, setObjectProperty, act_bind_of_ok hfind]
  cases hown : m.own? objectProto (Key.ofString name) with
  | none => exact assignOwn_act hnew
  | some p =>
    have hkey : Key.ofString name ≠ protoKey := by simpa [protoKey] using hname
    obtain ⟨w, hslot⟩ := hm.assignable _ p hown hkey
    simp only [hslot]
    exact assignOwn_act hnew

end Run

/-! ## The setter of the prototype -/

@[simp] theorem contextAt_limits (g : Setting σ) (n : Nat) : (contextAt g n).limits = g.limits := by
  cases n <;> rfl

def HasRoom (g : Setting σ) (m : Machine σ) : Prop := m.frames.length < Run.callLimit g.limits

namespace Run

variable {g : Setting σ} {n : Nat} {m : Machine σ}

theorem checkDepth_act (h : HasRoom g m) : checkDepth.act (contextAt g n) m = .ok () m := by
  have hroom : ¬(m.frames.length ≥ callLimit (contextAt g n).limits) := by
    rw [contextAt_limits]
    exact Nat.not_le_of_lt h
  change (if _ then fail _ _ else pure () : Run σ Unit).act _ _ = _
  rw [if_neg hroom]
  rfl

theorem within_act {α : Type} {f : Frame} {x : Run σ α} {a : α} {c : Context σ}
    (h : ∀ k, x.act c k = .ok a k) : (within f x).act c m = .ok a m := by
  have hending : ∀ k, (ending x).act c k = .ok (.ok a) k := fun k => by simp only [ending, h k]
  change EStateM.bind ((ending x).act c) _ _ = _
  rw [EStateM.bind, hending]
  rfl

theorem stamped_act {α : Type} {x : Run σ α} {a : α} {c : Context σ} {k : Machine σ}
    (h : x.act c m = .ok a k) : (stamped x).act c m = .ok a k := by
  have hattempt : (attemptStamped x).act c m = .ok (.ok a) k :=
    act_bind_of_ok (attempt_ok_iff.mpr h)
  exact act_bind_of_ok hattempt

/-- The setter takes no text: nothing changes. -/
theorem callBuiltin_setProto_act {name text : String} {r : Ref} (h : HasRoom g m) :
    (callBuiltin name (.object .setProto) false (.object r) [.text text]).act (contextAt g n) m =
      .ok .undefined m := by
  have hrun : ∀ k : Machine σ, (Builtin.run (.object .setProto) false (.object r)
      [.text text]).act (contextAt g n) k = .ok .undefined k := fun k => rfl
  rw [callBuiltin, act_bind_of_ok (checkDepth_act h)]
  exact within_act fun k => stamped_act (hrun k)

theorem setProto_act {props : List (Key × Property)} {text : String} (hm : m.OrdinaryPrototype)
    (hroom : HasRoom g m) (hnew : (objectOf props).own? protoKey = none) :
    (setNamed m.objects.size "__proto__" (.text text)).act (contextAt g (n + 1))
      (m.push (objectOf props)) = .ok () (m.push (objectOf props)) := by
  obtain ⟨getter, f, b, p, hown, hslot, hf, hcls⟩ := hm.setter
  have hfind : (find m.objects.size protoKey).act (contextAt g (n + 1)) (m.push (objectOf props)) =
      .ok (some p) (m.push (objectOf props)) :=
    (looks_find _ _).sees ((find?_of_new hm hnew).trans hown)
  have hobject : (object f).act (contextAt g n) (m.push (objectOf props)) =
      .ok (m.objectAt f) (m.push (objectOf props)) :=
    (looks_object f).sees (Machine.objectAt_push_of_lt hf)
  have hcall : (callValue (.object f) (.object m.objects.size) [.text text]).act (contextAt g n)
      (m.push (objectOf props)) = .ok .undefined (m.push (objectOf props)) := by
    rw [callValue, act_bind_of_ok hobject]
    simp only [hcls]
    exact callBuiltin_setProto_act hroom
  rw [setNamed, setObjectProperty]
  refine (act_bind_of_ok hfind).trans ?_
  simp only [hslot]
  exact act_bind_of_ok hcall

end Run

/-! ## Fields and requests -/

def textProps (l : List (String × String)) : List (Key × Property) :=
  l.map fun f => (Key.ofString f.1, .ofValue (.text f.2))

theorem own?_textProps {l : List (String × String)} {name : String} :
    (objectOf (textProps l)).own? (Key.ofString name) =
      (l.find? fun f => f.1 == name).map fun f => .ofValue (.text f.2) := by
  have hkey : ∀ f : String × String, (Key.ofString f.1 == Key.ofString name) = (f.1 == name) :=
    fun f => Bool.eq_iff_iff.mpr (by simp)
  simp [own?_objectOf, textProps, List.find?_map, Function.comp_def, hkey]

def fieldsObject (fields : Fields String) : Object :=
  objectOf (textProps (fields.without "__proto__").toList)

def requestOf (request : Request) (headers form : Ref) : Object :=
  objectOf [(Key.ofString "headers", .ofValue (.object headers)),
    (Key.ofString "formData", .ofValue (.object form)),
    (Key.ofString "encoding", .ofValue (.text request.charset.name))]

namespace Machine

def withRequest (m : Machine σ) (request : Request) : Machine σ :=
  ((m.push (fieldsObject request.headers)).push (fieldsObject request.form)).push
    (requestOf request m.objects.size (m.objects.size + 1))

variable {m : Machine σ} {request : Request}

theorem size_withRequest : (m.withRequest request).objects.size = m.objects.size + 3 := by
  simp [withRequest]

theorem objectAt_withRequest_headers :
    (m.withRequest request).objectAt m.objects.size = fieldsObject request.headers := by
  have hform : m.objects.size < (m.push (fieldsObject request.headers)).objects.size := by simp
  have hself : m.objects.size < ((m.push (fieldsObject request.headers)).push
      (fieldsObject request.form)).objects.size := by
    rw [size_push]
    exact Nat.lt_succ_of_lt hform
  rw [withRequest, objectAt_push_of_lt hself, objectAt_push_of_lt hform, objectAt_push_self]

theorem objectAt_withRequest_form :
    (m.withRequest request).objectAt (m.objects.size + 1) = fieldsObject request.form := by
  have hsize := size_push (m := m) (o := fieldsObject request.headers)
  have hself : m.objects.size + 1 < ((m.push (fieldsObject request.headers)).push
      (fieldsObject request.form)).objects.size := by simp
  rw [withRequest, objectAt_push_of_lt hself, ← hsize, objectAt_push_self]

theorem objectAt_withRequest_self :
    (m.withRequest request).objectAt (m.objects.size + 2) =
      requestOf request m.objects.size (m.objects.size + 1) := by
  have hsize : ((m.push (fieldsObject request.headers)).push
      (fieldsObject request.form)).objects.size = m.objects.size + 2 := by simp
  rw [withRequest, ← hsize, objectAt_push_self]

end Machine

namespace Run

variable {g : Setting σ} {n : Nat} {m : Machine σ}

/-- What the object has while its fields are set: those before that are not `__proto__`. -/
theorem setList_act (hm : m.OrdinaryPrototype) (hroom : HasRoom g m)
    {l : List (String × String)} (hl : l.Pairwise fun a b => a.1 ≠ b.1)
    {done : List (String × String)} (hdone : ∀ f ∈ l, ∀ d ∈ done, d.1 ≠ f.1) :
    (l.forM fun f => setNamed m.objects.size f.1 (.text f.2)).act (contextAt g (n + 1))
      (m.push (objectOf (textProps done))) =
        .ok () (m.push (objectOf (textProps (done ++ l.filter fun f => f.1 != "__proto__")))) := by
  induction l generalizing done with
  | nil =>
    rw [List.filter_nil, List.append_nil]
    rfl
  | cons f l ih =>
    obtain ⟨hf, hl⟩ := List.pairwise_cons.mp hl
    obtain ⟨hfdone, hldone⟩ := List.forall_mem_cons.mp hdone
    have hnew : (objectOf (textProps done)).own? (Key.ofString f.1) = none := by
      rw [own?_textProps, Option.map_eq_none_iff, List.find?_eq_none]
      simpa using hfdone
    by_cases hname : f.1 = "__proto__"
    · -- The setter leaves no trace of the field.
      rw [hname] at hnew
      have hset : (setNamed m.objects.size f.1 (.text f.2)).act (contextAt g (n + 1))
          (m.push (objectOf (textProps done))) = .ok () (m.push (objectOf (textProps done))) := by
        rw [hname]
        exact setProto_act hm hroom hnew
      rw [List.filter_cons_of_neg (by simp [hname])]
      exact (act_bind_of_ok hset).trans (ih hl hldone)
    · have hset := setNamed_act (c := contextAt g (n + 1)) (v := .text f.2) hm hnew hname
      have hprops : textProps done ++ [(Key.ofString f.1, .ofValue (.text f.2))] =
          textProps (done ++ [f]) := by simp [textProps]
      rw [hprops] at hset
      have hldone' : ∀ f' ∈ l, ∀ d ∈ done ++ [f], d.1 ≠ f'.1 := by
        intro f' hf' d hd
        rcases List.mem_append.mp hd with hd | hd
        · exact hldone f' hf' d hd
        · rw [List.mem_singleton.mp hd]
          exact hf f' hf'
      rw [List.filter_cons_of_pos (by simp [hname]), List.append_cons]
      exact (act_bind_of_ok hset).trans (ih hl hldone')

theorem setFields_act (hm : m.OrdinaryPrototype) (hroom : HasRoom g m) (fields : Fields String) :
    (setFields m.objects.size fields).act (contextAt g (n + 1)) (m.push (objectOf [])) =
      .ok () (m.push (fieldsObject fields)) := by
  have hnone : ∀ f ∈ fields.toList, ∀ d ∈ ([] : List (String × String)), d.1 ≠ f.1 := by simp
  exact setList_act hm hroom fields.names_ne hnone

theorem requestObject_act (hm : m.OrdinaryPrototype) (hroom : HasRoom g m) (request : Request) :
    (requestObject request).act (contextAt g (n + 1)) m =
      .ok (m.objects.size + 2) (m.withRequest request) := by
  have hm₁ := hm.push (fieldsObject request.headers)
  have hm₂ := hm₁.push (fieldsObject request.form)
  rw [requestObject]
  refine (act_bind_of_ok newObject_act).trans ?_
  refine (act_bind_of_ok (setFields_act hm hroom request.headers)).trans ?_
  refine (act_bind_of_ok newObject_act).trans ?_
  refine (act_bind_of_ok (setFields_act hm₁ hroom request.form)).trans ?_
  refine (act_bind_of_ok newObject_act).trans ?_
  refine (act_bind_of_ok (setNamed_act hm₂ (by simp [own?_objectOf]) (by decide))).trans ?_
  refine (act_bind_of_ok (setNamed_act hm₂ (by simp [own?_objectOf]) (by decide))).trans ?_
  refine (act_bind_of_ok (setNamed_act hm₂ (by simp [own?_objectOf]) (by decide))).trans ?_
  simp only [Machine.size_push]
  rfl

end Run

end ContentSource.Script
