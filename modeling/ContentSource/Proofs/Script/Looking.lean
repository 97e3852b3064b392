import ContentSource.Proofs.Script.HookResults
import ContentSource.Proofs.Script.Objects

/-! # Looking at the machine

What is seen of objects without running any code: their properties, those along the chain of
prototypes, the names that are listed, and kinds of values. A property that holds a value is read
that way too, and only a getter runs code.
-/
namespace ContentSource.Script

open Text (Units)

variable {σ α β : Type}

namespace Machine

variable {m : Machine σ}

def objectAt (m : Machine σ) (r : Ref) : Object := m.objects.getD r default

def own? (m : Machine σ) (r : Ref) (k : Key) : Option Property := (m.objectAt r).own? k

def lookup? (m : Machine σ) (k : Key) : Nat → Ref → Option Property
  | 0, _ => none
  | n + 1, r =>
    match m.own? r k with
    | some p => some p
    | none =>
      match (m.objectAt r).proto with
      | some q => m.lookup? k n q
      | none => none

def find? (m : Machine σ) (r : Ref) (k : Key) : Option Property :=
  m.lookup? k (m.objects.size + 1) r

def names (m : Machine σ) (r : Ref) : List Units := (m.objectAt r).names

theorem find?_of_own? {r : Ref} {k : Key} {p : Property} (h : m.own? r k = some p) :
    m.find? r k = some p := by
  simp [find?, lookup?, h]

def kindOf (m : Machine σ) : Value → Kind
  | .undefined => .undefined
  | .null => .null
  | .bool _ => .bool
  | .number (.int _) => .int
  | .number (.float _) => .float
  | .string _ => .string
  | .symbol _ => .symbol
  | .bigInt _ => .bigInt
  | .object r =>
    match (m.objectAt r).cls with
    | .array => .array
    | .promise => .promise
    | .function _ true => .constructor
    | .function _ false => .function
    | _ => .object

def callable (m : Machine σ) : Value → Bool
  | .object r =>
    match (m.objectAt r).cls with
    | .function .. => true
    | _ => false
  | _ => false

end Machine

namespace Run

/-- Something that only looks at the machine, and what it sees. -/
def Looks (x : Run σ α) (f : Machine σ → α) : Prop := ∀ c m, x.act c m = .ok (f m) m

theorem Looks.pure (a : α) : Looks (pure a : Run σ α) fun _ => a := fun _ _ => rfl

theorem Looks.bind {x : Run σ α} {g : α → Run σ β} {f : Machine σ → α} {h : Machine σ → β}
    (hx : Looks x f) (hg : ∀ c m, (g (f m)).act c m = .ok (h m) m) : Looks (x >>= g) h :=
  fun c m => (act_bind_of_ok (hx c m)).trans (hg c m)

theorem Looks.sees {x : Run σ α} {f : Machine σ → α} (h : Looks x f) {c : Context σ}
    {m : Machine σ} {a : α} (ha : f m = a) : x.act c m = .ok a m := ha ▸ h c m

theorem looks_object (r : Ref) : Looks (object (σ := σ) r) fun m => m.objectAt r :=
  fun _ _ => rfl

theorem looks_getOwn (r : Ref) (k : Key) : Looks (getOwn (σ := σ) r k) fun m => m.own? r k := by
  refine (looks_object r).bind fun c m => ?_
  simp only [Machine.own?, Object.own?]
  cases (m.objectAt r).cls with
  | boxed v => cases v <;> rfl
  | _ => rfl

theorem looks_lookup (k : Key) (n : Nat) (r : Ref) :
    Looks (lookup (σ := σ) k n r) fun m => m.lookup? k n r := by
  induction n generalizing r with
  | zero => exact .pure none
  | succ n ih =>
    refine (looks_getOwn r k).bind fun c m => ?_
    simp only [Machine.lookup?]
    cases m.own? r k with
    | some p => rfl
    | none =>
      rw [act_bind_of_ok (looks_object r c m)]
      cases (m.objectAt r).proto with
      | some q => exact ih q c m
      | none => rfl

theorem looks_find (r : Ref) (k : Key) : Looks (find (σ := σ) r k) fun m => m.find? r k :=
  fun c m => looks_lookup k (m.objects.size + 1) r c m

theorem looks_ownKeys (r : Ref) : Looks (ownKeys (σ := σ) r) fun m => (m.objectAt r).ownKeys := by
  refine (looks_object r).bind fun c m => ?_
  simp only [Object.ownKeys]
  cases (m.objectAt r).cls with
  | boxed v => cases v <;> rfl
  | _ => rfl

theorem looks_filterMapM {f : α → Run σ (Option β)} {g : Machine σ → α → Option β}
    (h : ∀ a, Looks (f a) fun m => g m a) (l : List α) :
    Looks (l.filterMapM f) fun m => l.filterMap (g m) := by
  have hloop : ∀ acc : List β,
      Looks (List.filterMapM.loop f l acc) fun m => acc.reverse ++ l.filterMap (g m) := by
    induction l with
    | nil => exact fun acc c m => by simp [List.filterMapM.loop, Looks.pure acc.reverse c m]
    | cons a l ih =>
      refine fun acc => (h a).bind fun c m => ?_
      cases hg : g m a with
      | none => simpa [hg] using ih acc c m
      | some b => simpa [hg] using ih (b :: acc) c m
  exact hloop []

theorem looks_enumerableNames (r : Ref) :
    Looks (enumerableNames (σ := σ) r) fun m => m.names r := by
  refine (looks_ownKeys r).bind fun c m => ?_
  refine looks_filterMapM (g := fun m k => (m.objectAt r).nameOf? k) (fun k => ?_) _ c m
  cases k with
  | symbol id => exact .pure none
  | name s => exact (looks_getOwn r (.name s)).bind fun c m => rfl

theorem looks_kind (v : Value) : Looks (kind (σ := σ) v) fun m => m.kindOf v := by
  cases v with
  | object r =>
    refine (looks_object r).bind fun c m => ?_
    simp only [Machine.kindOf]
    cases (m.objectAt r).cls with
    | function f constructs => cases constructs <;> rfl
    | _ => rfl
  | number n => cases n <;> exact fun _ _ => rfl
  | _ => exact fun _ _ => rfl

theorem looks_isCallable (v : Value) : Looks (isCallable (σ := σ) v) fun m => m.callable v := by
  cases v with
  | object r =>
    refine (looks_object r).bind fun c m => ?_
    simp only [Machine.callable]
    cases (m.objectAt r).cls <;> rfl
  | _ => exact fun _ _ => rfl

/-! ## Reading properties -/

variable {c : Context σ} {m : Machine σ} {r : Ref} {k : Key}

theorem getObject_of_data {v : Value} {w e g : Bool} (h : m.find? r k = some ⟨.data v w, e, g⟩) :
    (getObject r k).act c m = .ok v m :=
  act_bind_of_ok ((looks_find r k).sees h)

end Run

end ContentSource.Script
