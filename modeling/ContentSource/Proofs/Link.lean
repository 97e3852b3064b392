import ContentSource.Link

/-! # The grammar of colon links

The texts that are colon links are those made of an identifier, a double colon, and a payload that
is not empty and has no line feed. Reading a link and writing it again gives the same text, and a
text can be divided in one way only, at its first double colon.
-/
namespace ContentSource.Link

def IsIdent : List Char → Prop
  | [] => False
  | c :: rest => isIdentStart c = true ∧ ∀ d ∈ rest, isIdentRest d = true

def IsPayload (cs : List Char) : Prop := cs ≠ [] ∧ '\n' ∉ cs

instance (cs : List Char) : Decidable (IsPayload cs) := inferInstanceAs (Decidable (_ ∧ _))

structure Valid (l : Link) : Prop where
  type : IsIdent l.type.toList
  payload : IsPayload l.payload.toList

theorem span_ident {rest : List Char} (h : ∀ d ∈ rest, isIdentRest d = true)
    (payload : List Char) :
    (rest ++ ':' :: ':' :: payload).takeWhile isIdentRest = rest ∧
      (rest ++ ':' :: ':' :: payload).dropWhile isIdentRest = ':' :: ':' :: payload := by
  have hcolon : isIdentRest ':' = false := by decide
  rw [List.takeWhile_append_of_pos h, List.dropWhile_append_of_pos h]
  simp [hcolon]

/-- Behind an identifier and a double colon, only the payload decides whether there is a link. -/
theorem splitChars?_ident {type : List Char} (ht : IsIdent type) (payload : List Char) :
    splitChars? (type ++ ':' :: ':' :: payload) =
      if IsPayload payload then some (type, payload) else none := by
  cases type with
  | nil => cases ht
  | cons c rest =>
    obtain ⟨hc, hrest⟩ := ht
    obtain ⟨htake, hdrop⟩ := span_ident hrest payload
    have hrefused : (payload.isEmpty || payload.contains '\n') = true ↔ ¬IsPayload payload := by
      by_cases hempty : payload = [] <;> simp [IsPayload, hempty]
    simp only [List.cons_append, splitChars?, hc, if_true, hdrop, htake, hrefused, ite_not]

theorem splitChars?_eq_some_iff {cs type payload : List Char} :
    splitChars? cs = some (type, payload) ↔
      cs = type ++ ':' :: ':' :: payload ∧ IsIdent type ∧ IsPayload payload := by
  constructor
  · intro h
    unfold splitChars? at h
    split at h
    · cases h
    · rename_i c rest
      split at h
      · rename_i hc
        split at h
        · rename_i body hdrop
          split at h
          · cases h
          · rename_i hbody
            cases h
            have hrest : ∀ d ∈ rest.takeWhile isIdentRest, isIdentRest d = true :=
              List.all_eq_true.mp List.all_takeWhile
            refine ⟨?_, ⟨hc, hrest⟩, ?_⟩
            · rw [List.cons_append, ← hdrop, List.takeWhile_append_dropWhile]
            · simpa [IsPayload] using hbody
        · cases h
      · cases h
  · rintro ⟨rfl, ht, hp⟩
    rw [splitChars?_ident ht, if_pos hp]

theorem toList_render (l : Link) :
    l.render.toList = l.type.toList ++ ':' :: ':' :: l.payload.toList := by
  simp [render]

/-- Links are read as they are written, and nothing else is a link. -/
theorem parse?_eq_some_iff {s : String} {l : Link} :
    parse? s = some l ↔ s = l.render ∧ l.Valid := by
  have hwritten : s = l.render ↔ s.toList = l.type.toList ++ ':' :: ':' :: l.payload.toList := by
    rw [← toList_render, String.toList_inj]
  constructor
  · intro h
    obtain ⟨⟨type, payload⟩, hsplit, rfl⟩ := Option.map_eq_some_iff.mp h
    obtain ⟨hs, ht, hp⟩ := splitChars?_eq_some_iff.mp hsplit
    exact ⟨hwritten.mpr (by simpa using hs), by simpa using ht, by simpa using hp⟩
  · rintro ⟨hs, ht, hp⟩
    have hsplit := splitChars?_eq_some_iff.mpr ⟨hwritten.mp hs, ht, hp⟩
    simp [parse?, hsplit]

/-- Behind an identifier and a double colon, a text is a link if the rest can be a payload. -/
theorem parse?_ident {type : String} (ht : IsIdent type.toList) (payload : String) :
    parse? (type ++ "::" ++ payload) =
      if IsPayload payload.toList then some ⟨type, payload⟩ else none := by
  have hlist : (type ++ "::" ++ payload).toList = type.toList ++ ':' :: ':' :: payload.toList := by
    simp
  have hsplit := splitChars?_ident ht payload.toList
  by_cases hp : IsPayload payload.toList <;> simp [parse?, hlist, hsplit, hp]

theorem isIdent_null : IsIdent null.toList :=
  ⟨rfl, List.all_eq_true.mp rfl⟩

theorem isIdent_call : IsIdent call.toList :=
  ⟨rfl, List.all_eq_true.mp rfl⟩

/-! ## Where a text is divided -/

def IsLetter (c : Char) : Prop := 'a' ≤ c ∧ c ≤ 'z' ∨ 'A' ≤ c ∧ c ≤ 'Z'

def Begins (c : Char) : Prop := IsLetter c ∨ c = '_' ∨ c = '$'

def Continues (c : Char) : Prop := Begins c ∨ '0' ≤ c ∧ c ≤ '9'

def IsType (type : String) : Prop :=
  ∃ c rest, type.toList = c :: rest ∧ Begins c ∧ ∀ d ∈ rest, Continues d

/-- A text is a type, a double colon and a payload on one line. -/
structure Divides (s : String) (l : Link) : Prop where
  whole : s = l.type ++ "::" ++ l.payload
  type : IsType l.type
  something : l.payload ≠ ""
  oneLine : '\n' ∉ l.payload.toList

theorem isIdentStart_iff {c : Char} : isIdentStart c = true ↔ Begins c := by
  have halpha : c.isAlpha = true ↔ IsLetter c := by
    delta Char.isAlpha Char.isUpper Char.isLower
    simp [IsLetter, Char.le_def, or_comm]
  simp [isIdentStart, Begins, halpha, or_assoc]

theorem isIdentRest_iff {c : Char} : isIdentRest c = true ↔ Continues c := by
  have hdigit : c.isDigit = true ↔ '0' ≤ c ∧ c ≤ '9' := by
    simp [Char.isDigit, Char.le_def]
  simp [isIdentRest, Continues, isIdentStart_iff, hdigit]

theorem isIdent_iff_isType {type : String} : IsIdent type.toList ↔ IsType type := by
  unfold IsType
  cases type.toList with
  | nil => simp [IsIdent]
  | cons c rest =>
    simp only [IsIdent, isIdentStart_iff, isIdentRest_iff]
    constructor
    · rintro ⟨hc, hrest⟩
      exact ⟨c, rest, rfl, hc, hrest⟩
    · rintro ⟨_, _, heq, hc, hrest⟩
      cases heq
      exact ⟨hc, hrest⟩

theorem parse?_eq_some_iff_divides {s : String} {l : Link} : parse? s = some l ↔ Divides s l := by
  rw [parse?_eq_some_iff]
  constructor
  · rintro ⟨hwhole, htype, hpayload⟩
    exact ⟨hwhole, isIdent_iff_isType.mp htype, by simpa using hpayload.1, hpayload.2⟩
  · rintro ⟨hwhole, htype, hsomething, hline⟩
    exact ⟨hwhole, isIdent_iff_isType.mpr htype, by simpa using hsomething, hline⟩

/-- A colon or a line feed is no part of a type. -/
theorem IsIdent.not_mem {cs : List Char} (h : IsIdent cs) {c : Char}
    (hc : isIdentRest c = false) : c ∉ cs := by
  cases cs with
  | nil => cases h
  | cons d rest =>
    intro hmem
    have htrue : isIdentRest c = true := by
      rcases List.mem_cons.mp hmem with rfl | hrest
      · simp [isIdentRest, h.1]
      · exact h.2 c hrest
    rw [hc] at htrue
    cases htrue

/-- No double colon begins before the one behind the type. -/
theorem IsIdent.length_le {type payload before after : List Char} (h : IsIdent type)
    (heq : type ++ ':' :: ':' :: payload = before ++ ':' :: ':' :: after) :
    type.length ≤ before.length := by
  refine Nat.le_of_not_lt fun hlt => h.not_mem (c := ':') (by decide) ?_
  have hcolon : (type ++ ':' :: ':' :: payload)[before.length]? = some ':' := by
    rw [heq]
    simp
  rw [List.getElem?_append_left hlt] at hcolon
  exact List.mem_of_getElem? hcolon

theorem Divides.not_mem {s : String} {l : Link} (h : Divides s l) : '\n' ∉ s.toList := by
  have htype : '\n' ∉ l.type.toList := (isIdent_iff_isType.mpr h.type).not_mem (by decide)
  simp [h.whole, htype, h.oneLine]

theorem Divides.length_le {s : String} {l : Link} (h : Divides s l) {before after : List Char}
    (hs : s.toList = before ++ ':' :: ':' :: after) : l.type.toList.length ≤ before.length := by
  have hsame : l.type.toList ++ ':' :: ':' :: l.payload.toList = before ++ ':' :: ':' :: after := by
    rw [← hs, h.whole]
    exact (toList_render l).symm
  exact (isIdent_iff_isType.mpr h.type).length_le hsame

/-- A link may be the payload of another link. -/
theorem Divides.nest {s type : String} {l : Link} (h : Divides s l) (htype : IsType type) :
    Divides (type ++ "::" ++ s) ⟨type, s⟩ := by
  refine ⟨rfl, htype, ?_, h.not_mem⟩
  rintro rfl
  have hempty := congrArg String.toList h.whole
  simp at hempty

/-- A text is a link exactly if it is made of a type, a double colon and a payload on one line. It
is divided at its first double colon and in no other way, and its parts make the same text again;
a link can be the payload of a link; and a text with a line feed in it is no link. -/
theorem links_follow_grammar (s : String) :
    (∀ l, parse? s = some l ↔ Divides s l) ∧
      (∀ l, parse? s = some l → l.render = s ∧ (∀ l', Divides s l' → l' = l) ∧
        ∀ before after, s.toList = before ++ ':' :: ':' :: after →
          l.type.toList.length ≤ before.length) ∧
      (∀ l type, parse? s = some l → IsType type →
        parse? (type ++ "::" ++ s) = some ⟨type, s⟩) ∧
      ('\n' ∈ s.toList → parse? s = none) := by
  refine ⟨fun l => parse?_eq_some_iff_divides, fun l h => ?_, fun l type h htype => ?_, fun h => ?_⟩
  · have hl := parse?_eq_some_iff_divides.mp h
    refine ⟨hl.whole.symm, fun l' hl' => ?_, fun before after hs => hl.length_le hs⟩
    rw [← parse?_eq_some_iff_divides, h] at hl'
    exact (Option.some.inj hl').symm
  · exact parse?_eq_some_iff_divides.mpr ((parse?_eq_some_iff_divides.mp h).nest htype)
  · refine Option.eq_none_iff_forall_not_mem.mpr fun l hl => ?_
    exact (parse?_eq_some_iff_divides.mp hl).not_mem h

example : parse? "A:::B::c" = some ⟨"A", ":B::c"⟩ := by decide

end ContentSource.Link
