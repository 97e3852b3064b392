import ContentSource.Plugin.Document
import ContentSource.Proofs.CacheTime
import ContentSource.Proofs.Requirement

/-! # Which documents are accepted

What is required of a plugin document, in the order in which it is looked at, and that a document is
read exactly when it meets all of this and else refused over the first requirement that it does not
meet. What a catch group holds, and whatever stands outside the description and the nodes, is never
looked at.
-/
namespace ContentSource

open Requirement (Judges FirstFailing)

/-! ## Texts -/

namespace Text

def IsDigits (cs : List Char) : Prop := cs ≠ [] ∧ ∀ c ∈ cs, c.isDigit = true

inductive WritesInteger : List Char → Int → Prop
  | unsigned {cs : List Char} : IsDigits cs → WritesInteger cs (digitsValue cs)
  | plus {cs : List Char} : IsDigits cs → WritesInteger ('+' :: cs) (digitsValue cs)
  | minus {cs : List Char} : IsDigits cs → WritesInteger ('-' :: cs) (-(digitsValue cs : Int))

theorem readDigits?_eq_some {cs : List Char} {n : Nat} :
    readDigits? cs = some n ↔ IsDigits cs ∧ digitsValue cs = n := by
  unfold readDigits? IsDigits
  cases cs with
  | nil => simp
  | cons c cs => by_cases h : (c :: cs).all Char.isDigit <;> simp_all

theorem readInteger?_eq_some {s : String} {v : Int} :
    readInteger? s = some v ↔ WritesInteger s.toList v := by
  have hread : ∀ cs (f : Nat → Int), ((readDigits? cs).map f = some v ↔
      IsDigits cs ∧ f (digitsValue cs) = v) := by
    intro cs f
    rw [Option.map_eq_some_iff]
    constructor
    · rintro ⟨n, hn, rfl⟩
      obtain ⟨hcs, rfl⟩ := readDigits?_eq_some.mp hn
      exact ⟨hcs, rfl⟩
    · rintro ⟨hcs, rfl⟩
      exact ⟨_, readDigits?_eq_some.mpr ⟨hcs, rfl⟩, rfl⟩
  have hminus : ∀ cs, ((readDigits? cs : Option Int).map fun n => -n) =
      (readDigits? cs).map fun n : Nat => -(n : Int) := by
    intro cs
    cases readDigits? cs <;> rfl
  unfold readInteger?
  constructor
  · intro h
    split at h
    · rename_i cs hcs
      rw [hminus] at h
      obtain ⟨hdigits, rfl⟩ := (hread cs _).mp h
      rw [hcs]
      exact .minus hdigits
    · rename_i cs hcs
      obtain ⟨hdigits, rfl⟩ := (hread cs _).mp h
      rw [hcs]
      exact .plus hdigits
    · obtain ⟨hdigits, rfl⟩ := (hread _ _).mp h
      exact .unsigned hdigits
  · intro h
    generalize s.toList = cs at h
    cases h with
    | plus hcs => exact (hread _ _).mpr ⟨hcs, rfl⟩
    | minus hcs => exact (hminus _).trans ((hread _ _).mpr ⟨hcs, rfl⟩)
    | unsigned hcs =>
      split
      · exact absurd (hcs.2 '-' (by simp)) (by decide)
      · exact absurd (hcs.2 '+' (by simp)) (by decide)
      · exact (hread _ _).mpr ⟨hcs, rfl⟩

def NonBlank (s : String) : Prop := ∃ c ∈ s.toList, isBlank c = false

theorem nonBlank?_of_nonBlank {s : String} (h : NonBlank s) : nonBlank? s = some s := by
  refine nonBlank?_eq_some.mpr ⟨rfl, ?_⟩
  obtain ⟨c, hc, hblank⟩ := h
  exact List.all_eq_false.mpr ⟨c, hc, by simp [hblank]⟩

theorem nonBlank?_of_blank {s : String} (h : ¬ NonBlank s) : nonBlank? s = none := by
  have hall : allBlank s = true :=
    List.all_eq_true.mpr fun c hc => by simpa using fun hblank => h ⟨c, hc, hblank⟩
  simp only [nonBlank?, hall, if_true]

end Text

namespace DataType

def IsWord (cs : List Char) : Prop := cs ≠ [] ∧ ∀ c ∈ cs, isWordChar c = true

def Written (s : String) : Prop :=
  ∃ kind view, IsWord kind ∧ IsWord view ∧ s.toList = kind ++ '.' :: view

theorem parseChars?_eq_some {cs kind view : List Char} :
    parseChars? cs = some (kind, view) ↔
      IsWord kind ∧ IsWord view ∧ cs = kind ++ '.' :: view := by
  unfold parseChars?
  constructor
  · intro h
    have hsplit := List.takeWhile_append_dropWhile (p := isWordChar) (l := cs)
    split at h
    · rename_i rest hrest
      rw [hrest] at hsplit
      dsimp only at h
      split at h
      · cases h
      · rename_i hwords
        cases h
        simp only [Bool.or_eq_true, List.isEmpty_iff, Bool.not_eq_true', List.all_eq_false,
          not_or, not_exists, not_and, Classical.not_not] at hwords
        obtain ⟨⟨hkind, hview⟩, hall⟩ := hwords
        have hword := List.all_eq_true.mp (List.all_takeWhile (p := isWordChar) (l := cs))
        exact ⟨⟨hkind, hword⟩, ⟨hview, hall⟩, hsplit.symm⟩
    · cases h
  · rintro ⟨hkind, hview, rfl⟩
    rw [List.dropWhile_append_of_pos hkind.2, List.takeWhile_append_of_pos hkind.2]
    have hdot : isWordChar '.' = false := by decide
    have hall : view.all isWordChar = true := List.all_eq_true.mpr hview.2
    simp [hdot, hall, hkind.1, hview.1]

theorem written_iff {s : String} : Written s ↔ ∃ t, parse? s = some t := by
  constructor
  · rintro ⟨kind, view, h⟩
    exact ⟨_, by rw [parse?, parseChars?_eq_some.mpr h]; rfl⟩
  · rintro ⟨t, ht⟩
    obtain ⟨⟨kind, view⟩, h, -⟩ := Option.map_eq_some_iff.mp ht
    exact ⟨kind, view, parseChars?_eq_some.mp h⟩

end DataType

/-! ## Nodes -/

namespace Node

def typeRequirements (x : Xml) : List (Requirement ParseError) :=
  [⟨x.valueOf "type" ≠ "", .missingType x.tag⟩,
    ⟨DataType.Written (x.valueOf "type"), .malformedType (x.valueOf "type") x.tag⟩]

def kindRequirements (group : String) (x : Xml) : List (Requirement ParseError) :=
  match group with
  | "entry" => [⟨Text.NonBlank (x.valueOf "title"), .missingTitle x.tag⟩]
  | "view" =>
    [⟨Text.NonBlank (x.valueOf "expr"), .missingExpr x.tag⟩,
      ⟨∃ f, Filter.parse? (x.valueOf "expr") = some f, .exprPattern patternRefused x.tag⟩]
  | _ => []

def cacheRequirements (x : Xml) : List (Requirement ParseError) :=
  [.malformed, .outOfRange].map fun refusal =>
    ⟨∀ text, x.attribute? "cache" = some text → CacheTime.parse text ≠ .error refusal,
      .cache (x.valueOf "cache") refusal (some x.tag)⟩

def requirements (group : String) (x : Xml) : List (Requirement ParseError) :=
  typeRequirements x ++ (kindRequirements group x ++ cacheRequirements x)

theorem readType_judged (x : Xml) : Judges (typeRequirements x) (readType x) := by
  unfold readType
  dsimp only
  by_cases hempty : x.valueOf "type" = ""
  · rw [if_pos (by simp [hempty])]
    exact .refused (by simpa using hempty) _
  rw [if_neg (by simpa using hempty)]
  refine .cons hempty ?_
  cases ht : DataType.parse? (x.valueOf "type") with
  | some t => exact .cons (DataType.written_iff.mpr ⟨t, ht⟩) (.nil t)
  | none =>
    refine .refused (fun hwritten => ?_) []
    obtain ⟨t, ht'⟩ := DataType.written_iff.mp hwritten
    rw [ht] at ht'
    cases ht'

theorem readKind_judged {group : String} (hgroup : group ∈ ["entry", "view", "search"]) (x : Xml) :
    Judges (kindRequirements group x) (readKind group x) := by
  simp only [List.mem_cons, List.not_mem_nil, or_false] at hgroup
  rcases hgroup with rfl | rfl | rfl
  · by_cases htitle : Text.NonBlank (x.valueOf "title")
    · simp only [readKind, Text.nonBlank?_of_nonBlank htitle]
      exact .cons htitle (.nil _)
    · simp only [readKind, Text.nonBlank?_of_blank htitle]
      exact .refused htitle []
  · by_cases hexpr : Text.NonBlank (x.valueOf "expr")
    · simp only [readKind, Text.nonBlank?_of_nonBlank hexpr]
      refine .cons hexpr ?_
      cases hf : Filter.parse? (x.valueOf "expr") with
      | some f => exact .cons ⟨f, rfl⟩ (.nil _)
      | none => exact .refused (by simp) []
    · simp only [readKind, Text.nonBlank?_of_blank hexpr]
      exact .refused hexpr _
  · exact .nil _

theorem readCache_judged (x : Xml) : Judges (cacheRequirements x) (readCache x) := by
  cases hcache : x.attribute? "cache" with
  | none => simp [readCache, cacheRequirements, hcache, CacheTime.ofAttribute, Judges]
  | some text =>
    cases htime : CacheTime.parse text with
    | ok n => simp [readCache, cacheRequirements, hcache, htime, CacheTime.ofAttribute, Judges]
    | error refusal =>
      simp only [readCache, cacheRequirements, hcache, htime, CacheTime.ofAttribute]
      cases refusal with
      | malformed => exact .refused (by simp [htime]) _
      | unknownUnit u => exact absurd htime (CacheTime.parse_ne_unknownUnit text u)
      | outOfRange => exact .cons (by simp [htime]) (.refused (by simp [htime]) _)

theorem ofElement_judged {group : String} (hgroup : group ∈ ["entry", "view", "search"])
    (x : Xml) : Judges (requirements group x) (ofElement group x) :=
  (readType_judged x).bind fun _ _ =>
    (readKind_judged hgroup x).bind fun _ _ => (readCache_judged x).bind_pure _

end Node

namespace Nodes

/-- A group has one of the known names. Nothing is required of what a catch group holds. -/
def groupRequirements (group : Xml) : List (Requirement ParseError) :=
  ⟨group.name ∈ ["catch", "entry", "view", "search"], .unknownGroup group.name⟩ ::
    if group.name = "catch" then []
    else group.elements.flatMap (Node.requirements group.name)

theorem addGroup_judged (s : Nodes) (group : Xml) :
    Judges (groupRequirements group) (s.addGroup group) := by
  have hbuilt : group.name ∈ ["entry", "view", "search"] →
      Judges (group.elements.flatMap (Node.requirements group.name))
        (group.elements.mapM (Node.ofElement group.name)) :=
    fun hname => .mapM (Node.ofElement_judged hname) _
  by_cases hname : group.name ∈ ["catch", "entry", "view", "search"]
  · refine .cons hname ?_
    simp only [List.mem_cons, List.not_mem_nil, or_false] at hname
    rcases hname with h | h | h | h
    · simp only [addGroup, h]
      exact .nil _
    all_goals
      simp only [h] at hbuilt
      simp only [addGroup, h]
      exact (hbuilt (by simp)).map _
  · have hadd : s.addGroup group = .error (.unknownGroup group.name) := by
      unfold addGroup
      split <;> simp_all
    rw [hadd]
    exact .refused hname _

def requirements (x : Xml) : List (Requirement ParseError) := x.elements.flatMap groupRequirements

theorem ofElement_judged (x : Xml) : Judges (requirements x) (ofElement x) :=
  Judges.map (.foldlM addGroup_judged _ _) _

end Nodes

/-! ## Documents -/

namespace Meta

def versionText (x : Xml) : String := childText x "version"

def sourceExpr (x : Xml) : String := childValue (x.child? "source") "expr"

def requirements (version expr : String) : List (Requirement ParseError) :=
  [⟨∃ v, Text.WritesInteger version.toList v ∧ -9223372036854775808 ≤ v ∧ v < 9223372036854775808,
      .version version⟩,
    ⟨∃ f, Filter.parse? expr = some f, .sourcePattern Node.patternRefused⟩]

theorem readVersion?_eq_some {text : String} {v : Int} : readVersion? text = some v ↔
    Text.WritesInteger text.toList v ∧ -9223372036854775808 ≤ v ∧ v < 9223372036854775808 := by
  rw [readVersion?, Option.filter_eq_some_iff, Text.readInteger?_eq_some, decide_eq_true_eq]

theorem ofElement_judged (x : Xml) :
    Judges (requirements (versionText x) (sourceExpr x)) (ofElement x) := by
  -- the two readings are matched on in place, so that there is no bind to take apart
  cases hv : readVersion? (versionText x) with
  | none =>
    have hrefused : ofElement x = .error (.version (versionText x)) := by
      unfold versionText at hv
      simp only [ofElement, hv]
      rfl
    rw [hrefused]
    exact .refused (by simp [← readVersion?_eq_some, hv]) _
  | some v =>
    refine .cons ⟨v, readVersion?_eq_some.mp hv⟩ ?_
    unfold versionText at hv
    cases hf : Filter.parse? (sourceExpr x) with
    | none =>
      have hrefused : ofElement x = .error (.sourcePattern Node.patternRefused) := by
        unfold sourceExpr at hf
        simp only [ofElement, hv, hf]
        rfl
      rw [hrefused]
      exact .refused (by simp) []
    | some f =>
      refine .cons ⟨f, rfl⟩ ?_
      unfold sourceExpr at hf
      simp only [ofElement, hv, hf]
      exact .nil _

end Meta

namespace Document

def rootRequirements (root : Xml) : List (Requirement ParseError) :=
  ⟨∃ x ∈ root.inOrder, x.name = "meta", .noMeta⟩ ::
    ⟨∃ x ∈ root.inOrder, x.name = "nodes", .noNodes⟩ ::
      ((root.first? "meta").toList.flatMap
          (fun x => Meta.requirements (Meta.versionText x) (Meta.sourceExpr x)) ++
        (root.first? "nodes").toList.flatMap Nodes.requirements)

def requirements (source : String) : List (Requirement PluginError) :=
  ⟨∃ root, Xml.parse? source = some root, .xml⟩ ::
    (Xml.parse? source).toList.flatMap fun root =>
      (rootRequirements root).map (Requirement.mapError PluginError.parse)

def bare (x : Xml) : Xml := .element x.name x.attributes []

end Document

end ContentSource
