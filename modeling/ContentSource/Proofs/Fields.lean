import ContentSource.Fields

/-! # Lookups in named fields

A map of fields is determined by its lookups, since its names are in strict order. Of several values
that a name is given one after the other, the last one stays.
-/
namespace ContentSource.Fields

variable {β : Type} {m n : Fields β} {name : String} {value : β}

theorem names_ne (m : Fields β) : m.toList.Pairwise fun a b => a.1 ≠ b.1 := by
  refine m.sorted.imp fun {a b} h hab => ?_
  rw [hab] at h
  exact Text.not_precedes_self _ h

theorem nodup_toList (m : Fields β) : m.toList.Nodup :=
  m.names_ne.imp fun h hab => h (congrArg Prod.fst hab)

theorem find?_eq_some_iff {l : List (String × β)} (h : l.Pairwise fun a b => a.1 ≠ b.1)
    {p : String × β} : l.find? (fun q => q.1 == p.1) = some p ↔ p ∈ l := by
  induction l with
  | nil => simp
  | cons q l ih =>
    obtain ⟨hq, hl⟩ := List.pairwise_cons.mp h
    by_cases hname : q.1 = p.1
    · have hp : p ∉ l := fun hp => hq p hp hname
      simp [hname, hp, eq_comm]
    · have hne : p ≠ q := fun hpq => hname (congrArg Prod.fst hpq.symm)
      simp [hname, hne, ih hl]

theorem map_find?_eq_some_iff {l : List (String × β)} (h : l.Pairwise fun a b => a.1 ≠ b.1) :
    (l.find? fun p => p.1 == name).map Prod.snd = some value ↔ (name, value) ∈ l := by
  rw [← find?_eq_some_iff h, Option.map_eq_some_iff]
  constructor
  · rintro ⟨p, hp, rfl⟩
    have hname : p.1 = name := by simpa using List.find?_some hp
    subst hname
    exact hp
  · exact fun h => ⟨_, h, rfl⟩

theorem get?_eq_some_iff : m.get? name = some value ↔ (name, value) ∈ m.toList :=
  map_find?_eq_some_iff m.names_ne

theorem ext_get? (h : ∀ name, m.get? name = n.get? name) : m = n := by
  have hmem : ∀ p, p ∈ m.toList ↔ p ∈ n.toList := by
    intro p
    rw [← get?_eq_some_iff, ← get?_eq_some_iff, h]
  have hperm := (List.perm_ext_iff_of_nodup m.nodup_toList n.nodup_toList).mpr hmem
  refine ext (hperm.eq_of_pairwise (fun a b _ _ hab hba => ?_) m.sorted n.sorted)
  exact absurd (Text.precedes_trans hab hba) (Text.not_precedes_self a.1)

/-! ## Values given one after the other -/

/-- Of several values for one name, the last one stays. -/
theorem get?_insertAll (m : Fields β) (l : List (String × β)) (key : String) :
    (m.insertAll l).get? key =
      ((l.reverse.find? fun p => p.1 == key).map Prod.snd).or (m.get? key) := by
  induction l generalizing m with
  | nil => rfl
  | cons p l ih =>
    refine (ih (m.insert p.1 p.2)).trans ?_
    rw [get?_insert, List.reverse_cons, List.find?_append]
    cases l.reverse.find? fun p => p.1 == key with
    | some q => rfl
    | none =>
      by_cases hkey : p.1 = key
      · simp [hkey]
      · simp [hkey, Ne.symm hkey]

theorem insertAll_append (m : Fields β) (l l' : List (String × β)) :
    m.insertAll (l ++ l') = (m.insertAll l).insertAll l' := List.foldl_append

/-- Values that are given twice stay as they were given once. -/
theorem insertAll_insertAll (m : Fields β) (l : List (String × β)) :
    (m.insertAll l).insertAll l = m.insertAll l := by
  refine ext_get? fun key => ?_
  rw [get?_insertAll (m.insertAll l), get?_insertAll]
  cases (l.reverse.find? fun p => p.1 == key).map Prod.snd <;> rfl

/-- A name is not lost when values are given. -/
theorem isSome_get?_insertAll (l : List (String × β)) (h : (m.get? name).isSome = true) :
    ((m.insertAll l).get? name).isSome = true := by
  rw [get?_insertAll, Option.isSome_or, h, Bool.or_true]

theorem isSome_get?_ofList_iff {l : List (String × β)} :
    ((ofList l).get? name).isSome = true ↔ name ∈ l.map Prod.fst := by
  simp [ofList, get?_insertAll]

theorem mem_of_get?_ofList {l : List (String × β)} (h : (ofList l).get? name = some value) :
    (name, value) ∈ l := by
  simp only [ofList, get?_insertAll, get?_empty, Option.or_none, Option.map_eq_some_iff] at h
  obtain ⟨p, hp, rfl⟩ := h
  have hname : p.1 = name := by simpa using List.find?_some hp
  subst hname
  exact List.mem_reverse.mp (List.mem_of_find?_eq_some hp)

theorem mem_of_mem_ofList {l : List (String × β)} {p : String × β} (h : p ∈ (ofList l).toList) :
    p ∈ l :=
  mem_of_get?_ofList (get?_eq_some_iff.mpr h)

/-- The last of the values that a map lists for a name is its only one. -/
theorem find?_reverse_toList (m : Fields β) (key : String) :
    (m.toList.reverse.find? fun p => p.1 == key).map Prod.snd = m.get? key := by
  have hreverse : m.toList.reverse.Pairwise fun a b => a.1 ≠ b.1 :=
    List.pairwise_reverse.mpr (m.names_ne.imp fun h => h.symm)
  apply Option.ext
  intro value
  rw [map_find?_eq_some_iff hreverse, List.mem_reverse, get?_eq_some_iff]

/-- All values of one map set in another override what it had. -/
theorem get?_insertAll_toList (m n : Fields β) (key : String) :
    (m.insertAll n.toList).get? key = (n.get? key).or (m.get? key) := by
  rw [get?_insertAll, find?_reverse_toList]

theorem ofList_toList (m : Fields β) : ofList m.toList = m := by
  refine ext_get? fun key => ?_
  rw [ofList, get?_insertAll_toList, get?_empty, Option.or_none]

def filter (m : Fields β) (p : String × β → Bool) : Fields β :=
  ⟨m.toList.filter p, m.sorted.filter _⟩

/-! ## Leaving a name out -/

def without (m : Fields β) (name : String) : Fields β :=
  ⟨m.toList.filter fun p => p.1 != name, m.sorted.filter _⟩

theorem get?_without (m : Fields β) (name other : String) :
    (m.without name).get? other = if other = name then none else m.get? other := by
  apply Option.ext
  intro value
  rw [get?_eq_some_iff, without, List.mem_filter, ← get?_eq_some_iff]
  by_cases h : other = name <;> simp [h]

end ContentSource.Fields
