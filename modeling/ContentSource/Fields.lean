import ContentSource.Text.Order

/-! # Named fields

Headers, form fields, flags and catch processors are all maps from names to values that are listed
in the order of the names. The list is kept strictly sorted, so that two maps with the same values
are the same list. A field that is set again replaces its old value.
-/
namespace ContentSource

/-- Values by name, sorted by name. -/
structure Fields (β : Type) where
  toList : List (String × β)
  sorted : toList.Pairwise fun a b => Text.precedes a.1 b.1
deriving DecidableEq

namespace Fields

variable {β : Type}

def empty : Fields β := ⟨[], .nil⟩

instance : Inhabited (Fields β) := ⟨empty⟩

instance : Repr (Fields String) := ⟨fun m => reprPrec m.toList⟩

def insertList (name : String) (value : β) : List (String × β) → List (String × β)
  | [] => [(name, value)]
  | (k, v) :: rest =>
    if Text.precedes name k then (name, value) :: (k, v) :: rest
    else if name = k then (name, value) :: rest
    else (k, v) :: insertList name value rest

theorem mem_insertList {name : String} {value : β} {l : List (String × β)} {p : String × β}
    (h : p ∈ insertList name value l) : p = (name, value) ∨ p ∈ l := by
  induction l with
  | nil => simpa [insertList] using h
  | cons kv rest ih =>
    simp only [insertList] at h
    split at h
    · simpa using h
    · split at h
      · rcases List.mem_cons.mp h with h | h
        · exact Or.inl h
        · exact Or.inr (List.mem_cons_of_mem _ h)
      · rcases List.mem_cons.mp h with h | h
        · exact Or.inr (by simp [h])
        · rcases ih h with h | h
          · exact Or.inl h
          · exact Or.inr (List.mem_cons_of_mem _ h)

theorem insertList_sorted (name : String) (value : β) {l : List (String × β)}
    (h : l.Pairwise fun a b => Text.precedes a.1 b.1) :
    (insertList name value l).Pairwise fun a b => Text.precedes a.1 b.1 := by
  induction l with
  | nil => simp [insertList]
  | cons kv rest ih =>
    obtain ⟨k, v⟩ := kv
    obtain ⟨hk, hrest⟩ := List.pairwise_cons.mp h
    simp only [insertList]
    split
    · rename_i hlt
      refine List.pairwise_cons.mpr ⟨?_, h⟩
      intro b hb
      rcases List.mem_cons.mp hb with rfl | hb
      · exact hlt
      · exact Text.precedes_trans hlt (hk b hb)
    · rename_i hlt
      split
      · rename_i heq
        subst heq
        exact List.pairwise_cons.mpr ⟨hk, hrest⟩
      · rename_i hne
        refine List.pairwise_cons.mpr ⟨?_, ih hrest⟩
        intro b hb
        rcases mem_insertList hb with rfl | hb
        · exact Text.precedes_of_ne hlt hne
        · exact hk b hb

def insert (m : Fields β) (name : String) (value : β) : Fields β :=
  ⟨insertList name value m.toList, insertList_sorted name value m.sorted⟩

/-- The map that a list of assignments leaves, later ones replacing earlier ones. -/
def insertAll (m : Fields β) (l : List (String × β)) : Fields β :=
  l.foldl (fun acc p => acc.insert p.1 p.2) m

def ofList (l : List (String × β)) : Fields β := empty.insertAll l

def get? (m : Fields β) (name : String) : Option β :=
  (m.toList.find? fun p => p.1 == name).map Prod.snd

def isEmpty (m : Fields β) : Bool := m.toList.isEmpty

@[simp] theorem toList_empty : (empty : Fields β).toList = [] := rfl

@[simp] theorem toList_insert (m : Fields β) (name : String) (value : β) :
    (m.insert name value).toList = insertList name value m.toList := rfl

theorem ext {m n : Fields β} (h : m.toList = n.toList) : m = n := by
  cases m; cases n; simp_all

theorem get?_insertList (name other : String) (value : β) (l : List (String × β))
    (hs : l.Pairwise fun a b => Text.precedes a.1 b.1) :
    ((insertList name value l).find? fun p => p.1 == other).map Prod.snd =
      if other = name then some value else (l.find? fun p => p.1 == other).map Prod.snd := by
  induction l with
  | nil =>
    by_cases h : other = name
    · simp [insertList, h]
    · simp [insertList, h, Ne.symm h]
  | cons kv rest ih =>
    obtain ⟨k, v⟩ := kv
    obtain ⟨_, hrest⟩ := List.pairwise_cons.mp hs
    simp only [insertList]
    split
    · by_cases h : other = name
      · simp [h]
      · simp [List.find?_cons, h, Ne.symm h]
    · split
      · rename_i heq
        subst heq
        by_cases h : other = name
        · simp [h]
        · simp [h, Ne.symm h]
      · rename_i hne
        by_cases h : other = name
        · subst h
          simpa [List.find?_cons, Ne.symm hne] using ih hrest
        · have hi := ih hrest
          simp only [h, if_false] at hi
          by_cases hk : k = other
          · simp [hk, h]
          · simp [hk, h, hi]

@[simp] theorem get?_insert (m : Fields β) (name other : String) (value : β) :
    (m.insert name value).get? other = if other = name then some value else m.get? other :=
  get?_insertList name other value m.toList m.sorted

@[simp] theorem get?_empty (name : String) : (empty : Fields β).get? name = none := rfl

end Fields

end ContentSource
