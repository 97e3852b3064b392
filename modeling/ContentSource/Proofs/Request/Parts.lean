import ContentSource.Request

/-! # Reading the parts of a block

A text is split at a separator into parts that do not contain it, and each part gives at most one
field. Parts that are written one after the other with the separator between them, or behind each
of them, are read in the order in which they were written.
-/
namespace ContentSource.Request

variable {separator between c : Char} {part value rest : List Char} {parts : List (List Char)}
  {value? : List Char → Option (List Char)} {f : String × String}

/-! ## Splitting -/

theorem splitAt_ne_nil (separator : Char) (cs : List Char) : splitAt separator cs ≠ [] := by
  cases cs with
  | nil => simp [splitAt]
  | cons c cs =>
    unfold splitAt
    split
    · simp
    · split <;> simp

theorem splitAt_of_not_mem (h : separator ∉ part) : splitAt separator part = [part] := by
  induction part with
  | nil => rfl
  | cons c part ih =>
    obtain ⟨hc, hpart⟩ := List.ne_and_not_mem_of_not_mem_cons h
    rw [splitAt, if_neg (Ne.symm hc), ih hpart]

/-- The parts of two texts with the separator between them are those of each. -/
theorem splitAt_separator (separator : Char) (cs ds : List Char) :
    splitAt separator (cs ++ separator :: ds) = splitAt separator cs ++ splitAt separator ds := by
  induction cs with
  | nil => simp [splitAt]
  | cons c cs ih =>
    rw [List.cons_append, splitAt, splitAt, ih]
    split
    · rfl
    · cases hsplit : splitAt separator cs with
      | nil => exact absurd hsplit (splitAt_ne_nil separator cs)
      | cons part parts => rfl

theorem splitAt_append (h : separator ∉ part) (rest : List Char) :
    splitAt separator (part ++ separator :: rest) = part :: splitAt separator rest := by
  rw [splitAt_separator, splitAt_of_not_mem h, List.singleton_append]

theorem not_mem_of_mem_splitAt {cs : List Char} (h : part ∈ splitAt separator cs) :
    separator ∉ part := by
  induction cs generalizing part with
  | nil =>
    obtain rfl := List.mem_singleton.mp h
    exact List.not_mem_nil
  | cons c cs ih =>
    rw [splitAt] at h
    split at h
    · rcases List.mem_cons.mp h with rfl | h
      · exact List.not_mem_nil
      · exact ih h
    · rename_i hc
      cases hsplit : splitAt separator cs with
      | nil => exact absurd hsplit (splitAt_ne_nil separator cs)
      | cons first parts =>
        rw [hsplit] at ih h
        rcases List.mem_cons.mp h with rfl | h
        · exact List.not_mem_cons_of_ne_of_not_mem (Ne.symm hc) (ih List.mem_cons_self)
        · exact ih (List.mem_cons_of_mem _ h)

/-- Lines are the parts of a text that ends each of them, and an empty part is left. -/
theorem splitAt_lines (h : ∀ part ∈ parts, separator ∉ part) :
    splitAt separator (parts.flatMap fun part => part ++ [separator]) = parts ++ [[]] := by
  induction parts with
  | nil => rfl
  | cons part parts ih =>
    obtain ⟨hpart, hparts⟩ := List.forall_mem_cons.mp h
    rw [List.flatMap_cons, List.append_assoc, List.singleton_append, splitAt_append hpart,
      ih hparts, List.cons_append]

/-- Text behind lines is split for itself, whatever the lines are. -/
theorem splitAt_lines_append (separator : Char) (parts : List (List Char)) (rest : List Char) :
    splitAt separator ((parts.flatMap fun part => part ++ [separator]) ++ rest) =
      parts.flatMap (splitAt separator) ++ splitAt separator rest := by
  induction parts with
  | nil => rfl
  | cons part parts ih =>
    rw [List.flatMap_cons, List.flatMap_cons, List.append_assoc, List.append_assoc,
      List.singleton_append, splitAt_separator, ih, List.append_assoc]

theorem splitAt_intercalate (h : ∀ part ∈ parts, separator ∉ part) (hne : parts ≠ []) :
    splitAt separator ([separator].intercalate parts) = parts := by
  induction parts with
  | nil => exact absurd rfl hne
  | cons part parts ih =>
    obtain ⟨hpart, hparts⟩ := List.forall_mem_cons.mp h
    cases parts with
    | nil => rw [List.intercalate_singleton, splitAt_of_not_mem hpart]
    | cons next parts =>
      rw [List.intercalate_cons_cons, List.append_assoc, List.singleton_append,
        splitAt_append hpart, ih hparts (List.cons_ne_nil _ _)]

/-! ## One part -/

def field? (separator : Char) (value? : List Char → Option (List Char)) (part : List Char) :
    Option (String × String) :=
  (fieldFrom separator value? [] part).map fun f => (String.ofList f.1, String.ofList f.2)

theorem readFields_eq_filterMap (text : String) :
    readFields between separator value? text =
      (splitAt between text.toList).filterMap (field? separator value?) := rfl

theorem fieldFrom_append {name : List Char} (h : separator ∉ part) :
    fieldFrom separator value? name (part ++ rest) =
      fieldFrom separator value? (name ++ part) rest := by
  induction part generalizing name with
  | nil => rw [List.nil_append, List.append_nil]
  | cons c part ih =>
    obtain ⟨hc, hpart⟩ := List.ne_and_not_mem_of_not_mem_cons h
    rw [List.cons_append, fieldFrom, if_neg (Ne.symm hc), ih hpart, List.append_assoc,
      List.singleton_append]

/-- A name that is not empty is read up to the first separator. -/
theorem fieldFrom_name {name : List Char} (hne : name ≠ []) (h : separator ∉ name) :
    fieldFrom separator value? [] (name ++ separator :: rest) =
      match value? rest with
      | some value => some (name, value)
      | none => fieldFrom separator value? [] rest := by
  rw [fieldFrom_append h, List.nil_append]
  exact (if_pos rfl).trans (if_neg (by simpa using hne))

/-- A field that is found has a name without the separator, and its value is read behind it. -/
theorem fieldFrom_eq_some {name text : List Char} {found : List Char × List Char}
    (hname : separator ∉ name) (h : fieldFrom separator value? name text = some found) :
    found.1 ≠ [] ∧ separator ∉ found.1 ∧ found.1 ⊆ name ++ text ∧
      ∃ rest, rest ⊆ text ∧ value? rest = some found.2 := by
  induction text generalizing name with
  | nil => simp [fieldFrom] at h
  | cons c text ih =>
    -- The search goes on behind a separator with nothing read of the next name.
    have again (h : fieldFrom separator value? [] text = some found) :
        found.1 ≠ [] ∧ separator ∉ found.1 ∧ found.1 ⊆ name ++ c :: text ∧
          ∃ rest, rest ⊆ c :: text ∧ value? rest = some found.2 := by
      obtain ⟨hne, hsep, hin, rest, hrest, hvalue⟩ := ih List.not_mem_nil h
      have htext : text ⊆ c :: text := List.subset_cons_self c text
      refine ⟨hne, hsep, ?_, rest, List.Subset.trans hrest htext, hvalue⟩
      exact fun d hd => List.mem_append_right name (htext (hin hd))
    rw [fieldFrom] at h
    split at h
    · split at h
      · exact again h
      · rename_i hne
        split at h
        · rename_i value hvalue
          obtain rfl := Option.some.inj h
          refine ⟨by simpa using hne, hname, List.subset_append_left _ _, text, ?_, hvalue⟩
          exact List.subset_cons_self c text
        · exact again h
    · rename_i hc
      have hname' : separator ∉ name ++ [c] := by simpa [hname] using Ne.symm hc
      obtain ⟨hne, hsep, hin, rest, hrest, hvalue⟩ := ih hname' h
      refine ⟨hne, hsep, ?_, rest, List.Subset.trans hrest (List.subset_cons_self c text), hvalue⟩
      rwa [List.append_assoc, List.singleton_append] at hin

theorem field?_eq_some (h : field? separator value? part = some f) :
    f.1 ≠ "" ∧ separator ∉ f.1.toList ∧ f.1.toList ⊆ part ∧
      ∃ rest, rest ⊆ part ∧ value? rest = some f.2.toList := by
  obtain ⟨found, hfound, rfl⟩ := Option.map_eq_some_iff.mp h
  obtain ⟨hne, hsep, hin, rest, hrest, hvalue⟩ := fieldFrom_eq_some List.not_mem_nil hfound
  simp only [String.toList_ofList]
  refine ⟨?_, hsep, hin, rest, hrest, hvalue⟩
  rwa [ne_eq, String.ofList_eq_empty_iff]

/-- What is read from a block has a name and a value from one of its parts. -/
theorem of_mem_readFields {text : String} (h : f ∈ readFields between separator value? text) :
    f.1 ≠ "" ∧ separator ∉ f.1.toList ∧ between ∉ f.1.toList ∧
      ∃ rest, between ∉ rest ∧ value? rest = some f.2.toList := by
  rw [readFields_eq_filterMap] at h
  obtain ⟨part, hpart, hfield⟩ := List.mem_filterMap.mp h
  have hbetween := not_mem_of_mem_splitAt hpart
  obtain ⟨hne, hsep, hin, rest, hrest, hvalue⟩ := field?_eq_some hfield
  exact ⟨hne, hsep, fun hb => hbetween (hin hb), rest, fun hb => hbetween (hrest hb), hvalue⟩

/-! ## Whole blocks -/

theorem readFields_separator (t u : String) :
    readFields between separator value? (t ++ String.singleton between ++ u) =
      readFields between separator value? t ++ readFields between separator value? u := by
  simp only [readFields_eq_filterMap, String.toList_append, String.toList_singleton,
    List.append_assoc, List.singleton_append, splitAt_separator, List.filterMap_append]

theorem readFields_lines {text : String} (h : ∀ part ∈ parts, between ∉ part)
    (htext : text.toList = parts.flatMap fun part => part ++ [between]) :
    readFields between separator value? text = parts.filterMap (field? separator value?) := by
  rw [readFields_eq_filterMap, htext, splitAt_lines h, List.filterMap_append]
  exact List.append_nil _

/-- What stands behind complete lines is read for itself. -/
theorem readFields_lines_append {text : String}
    (htext : text.toList = parts.flatMap fun part => part ++ [between]) (t : String) :
    readFields between separator value? (text ++ t) =
      readFields between separator value? text ++ readFields between separator value? t := by
  have hempty : splitAt between [] = [[]] := rfl
  have hself : text.toList = (parts.flatMap fun part => part ++ [between]) ++ [] := by
    rw [htext, List.append_nil]
  rw [readFields_eq_filterMap, readFields_eq_filterMap, readFields_eq_filterMap,
    String.toList_append, htext, splitAt_lines_append, ← htext, hself, splitAt_lines_append,
    List.filterMap_append, List.filterMap_append, hempty]
  exact congrArg (· ++ _) (List.append_nil _).symm

theorem readFields_intercalate {text : String} (h : ∀ part ∈ parts, between ∉ part)
    (htext : text.toList = [between].intercalate parts) :
    readFields between separator value? text = parts.filterMap (field? separator value?) := by
  rw [readFields_eq_filterMap, htext]
  by_cases hne : parts = []
  · subst hne
    rfl
  · rw [splitAt_intercalate h hne]

/-- Of fields that are written one to a part, those are read whose parts are read as themselves. -/
theorem filterMap_field? {l : List (String × String)} {write : String × String → List Char}
    {p : String × String → Bool}
    (h : ∀ f ∈ l, field? separator value? (write f) = if p f then some f else none) :
    (l.map write).filterMap (field? separator value?) = l.filter p := by
  induction l with
  | nil => rfl
  | cons f l ih =>
    obtain ⟨hf, hl⟩ := List.forall_mem_cons.mp h
    rw [List.map_cons, List.filter_cons]
    by_cases hp : p f = true
    · rw [if_pos hp] at hf ⊢
      rw [List.filterMap_cons_some hf, ih hl]
    · rw [if_neg hp] at hf ⊢
      rw [List.filterMap_cons_none hf, ih hl]

end ContentSource.Request
