import ContentSource.Proofs.Script.Reading

/-! # Maps of an object's own texts

A map that is read of an object has the names of the enumerable properties that the object itself
has, and no others. Where none of them has a getter, reading changes nothing and the map has exactly
the texts that these properties hold.
-/
namespace ContentSource.Script.Run

open Text (Units)

variable {σ : Type} {c : Context σ} {m n : Machine σ} {r q : Ref}

/-- The names of a map are those of the enumerable properties that the object itself has. -/
theorem ReadsMap.own {part : String} {fields : Fields String} (h : ReadsMap c m r part fields n) :
    ∃ q k, Reads c m r (Key.ofString part) (.object q) k ∧
      ∀ name, (fields.get? name).isSome = true ↔
        ∃ p, k.own? q (Key.ofString name) = some p ∧ p.enumerable = true := by
  obtain ⟨q, k, texts, hread, hnames, -, rfl⟩ := h
  refine ⟨q, k, hread, fun name => ?_⟩
  have hlisted : name ∈ texts.map Prod.fst ↔ Units.ofString name ∈ k.names q := by
    simp [hnames]
  rw [Fields.isSome_get?_ofList_iff, hlisted]
  exact Object.mem_names_iff

def HoldsValues (m : Machine σ) (q : Ref) : Prop :=
  ∀ u p, m.own? q (.name u) = some p → p.enumerable = true → ∃ v w, p.slot = .data v w

/-- The properties that are listed of an object are the texts of a map. -/
structure HoldsTexts (m : Machine σ) (q : Ref) (fields : Fields String) : Prop where
  listed : ∀ u p, m.own? q (.name u) = some p → p.enumerable = true →
    ∃ name text, u = Units.ofString name ∧ fields.get? name = some text
  held : ∀ name text, fields.get? name = some text →
    ∃ w g, m.own? q (Key.ofString name) = some ⟨.data (.text text) w, true, g⟩

theorem reads_value_iff {v v' : Value} {k : Key} {w g : Bool}
    (h : m.own? q k = some ⟨.data v w, true, g⟩) :
    Reads c m q k v' n ↔ v' = v ∧ n = m := by
  rw [Reads, getObject_of_data (Machine.find?_of_own? h)]
  simp [eq_comm]

/-- Reading values changes nothing, and what is read is what the object has. -/
theorem ReadsTexts.held {texts : List (String × String)} (h : ReadsTexts c q m texts n)
    (hvalues : HoldsValues m q)
    (hlisted : ∀ p ∈ texts, Units.ofString p.1 ∈ m.names q) :
    n = m ∧ ∀ p ∈ texts,
      ∃ w g, m.own? q (Key.ofString p.1) = some ⟨.data (.text p.2) w, true, g⟩ := by
  induction h with
  | done m => simp
  | @next m k n name text rest hread hrest ih =>
    obtain ⟨hname, hlisted⟩ := List.forall_mem_cons.mp hlisted
    obtain ⟨p, hown, henumerable⟩ := Object.mem_names_iff.mp hname
    obtain ⟨v, w, hslot⟩ := hvalues _ p hown henumerable
    obtain ⟨slot, enumerable, g⟩ := p
    obtain rfl : slot = .data v w := hslot
    obtain rfl : enumerable = true := henumerable
    obtain ⟨rfl, rfl⟩ := (reads_value_iff hown).mp hread
    obtain ⟨rfl, hheld⟩ := ih hvalues hlisted
    exact ⟨rfl, List.forall_mem_cons.mpr ⟨⟨w, g, hown⟩, hheld⟩⟩

theorem HoldsTexts.readsTexts {fields : Fields String} (h : HoldsTexts m q fields)
    {texts : List (String × String)} (htexts : ∀ p ∈ texts, fields.get? p.1 = some p.2) :
    ReadsTexts c q m texts m := by
  induction texts with
  | nil => exact .done m
  | cons p texts ih =>
    obtain ⟨hp, htexts⟩ := List.forall_mem_cons.mp htexts
    obtain ⟨w, g, hheld⟩ := h.held p.1 p.2 hp
    exact .next ((reads_value_iff hheld).mpr ⟨rfl, rfl⟩) (ih htexts)

/-- The names that are listed of an object, with the texts of a map. -/
theorem exists_texts {fields : Fields String} {us : List Units}
    (h : ∀ u ∈ us, ∃ name text, u = Units.ofString name ∧ fields.get? name = some text) :
    ∃ texts : List (String × String), us = texts.map (fun p => Units.ofString p.1) ∧
      ∀ p ∈ texts, fields.get? p.1 = some p.2 := by
  induction us with
  | nil => exact ⟨[], rfl, by simp⟩
  | cons u us ih =>
    obtain ⟨⟨name, text, rfl, hget⟩, hus⟩ := List.forall_mem_cons.mp h
    obtain ⟨texts, rfl, htexts⟩ := ih hus
    exact ⟨(name, text) :: texts, rfl, List.forall_mem_cons.mpr ⟨hget, htexts⟩⟩

theorem HoldsTexts.readsMap {part : String} {fields : Fields String} {k : Machine σ}
    (h : HoldsTexts k q fields) (hread : Reads c m r (Key.ofString part) (.object q) k) :
    ReadsMap c m r part fields k := by
  have hlisted : ∀ u ∈ k.names q,
      ∃ name text, u = Units.ofString name ∧ fields.get? name = some text := by
    intro u hu
    obtain ⟨p, hown, henumerable⟩ := Object.mem_names_iff.mp hu
    exact h.listed u p hown henumerable
  obtain ⟨texts, hnames, htexts⟩ := exists_texts hlisted
  refine ⟨q, k, texts, hread, hnames, h.readsTexts htexts, Fields.ext_get? fun name => ?_⟩
  cases hget : fields.get? name with
  | none =>
    cases hlist : (Fields.ofList texts).get? name with
    | none => rfl
    | some text =>
      have hsome := htexts _ (Fields.mem_of_get?_ofList hlist)
      exact absurd (hget.symm.trans hsome) (by simp)
  | some text =>
    obtain ⟨w, g, hheld⟩ := h.held name text hget
    have hname : Units.ofString name ∈ k.names q := Object.mem_names_iff.mpr ⟨_, hheld, rfl⟩
    have hsome : ((Fields.ofList texts).get? name).isSome = true := by
      rw [Fields.isSome_get?_ofList_iff]
      simpa [hnames] using hname
    obtain ⟨text', htext'⟩ := Option.isSome_iff_exists.mp hsome
    have hsame := htexts _ (Fields.mem_of_get?_ofList htext')
    rw [htext', ← hsame, hget]

/-- Where a part holds values, it is a map exactly when they are texts with whole names. -/
theorem readsMap_iff_of_values {part : String} {fields : Fields String} {k : Machine σ}
    (hread : Reads c m r (Key.ofString part) (.object q) k) (hvalues : HoldsValues k q) :
    ReadsMap c m r part fields n ↔ n = k ∧ HoldsTexts k q fields := by
  constructor
  · rintro ⟨q', k', texts, hread', hnames, hreads, rfl⟩
    have hsame : q' = q ∧ k' = k := by
      have heq := Eq.trans (Eq.symm hread') hread
      simpa only [EStateM.Result.ok.injEq, Value.object.injEq] using heq
    rw [hsame.1, hsame.2] at hnames hreads
    have hlisted : ∀ p ∈ texts, Units.ofString p.1 ∈ k.names q := by
      intro p hp
      rw [hnames]
      exact List.mem_map_of_mem hp
    obtain ⟨hn, hheld⟩ := hreads.held hvalues hlisted
    refine ⟨hn, ⟨fun u p hown henumerable => ?_, fun name text hget => ?_⟩⟩
    · have hu : u ∈ k.names q := Object.mem_names_iff.mpr ⟨p, hown, henumerable⟩
      rw [hnames, List.mem_map] at hu
      obtain ⟨⟨name, text⟩, hmem, rfl⟩ := hu
      have hsome : ((Fields.ofList texts).get? name).isSome = true :=
        Fields.isSome_get?_ofList_iff.mpr (List.mem_map_of_mem hmem)
      obtain ⟨text', htext'⟩ := Option.isSome_iff_exists.mp hsome
      exact ⟨name, text', rfl, htext'⟩
    · exact hheld (name, text) (Fields.mem_of_get?_ofList hget)
  · rintro ⟨rfl, hholds⟩
    exact hholds.readsMap hread

end ContentSource.Script.Run
