import ContentSource.Proofs.Text.Numeral
import ContentSource.Script.Report

/-! # The line of a stack

A frame names a place where it ends in a colon and a line, perhaps with a column behind it. The
place that starts first counts. A place has at most two colons, so nothing in front of a line and a
column is part of one, whatever the names in the frame are. Lines of a stack that name no place are
passed over, and the first one that does is the last that is looked at.
-/
namespace ContentSource

theorem Text.trimChars_concat {cs : List Char} {c : Char} (hc : isBlank c = true) :
    trimChars (cs ++ [c]) = trimChars cs := by
  simp only [trimChars, trimStart, List.dropWhile_append]
  split
  · rename_i hall
    rw [List.isEmpty_iff.mp hall]
    simp [hc]
  · simp [trimEnd, hc]

namespace Script

open Text (Spells)

variable {cs line before close column : List Char}

def IsDigits (cs : List Char) : Prop := cs ≠ [] ∧ ∀ c ∈ cs, Text.isDecimalDigit c = true

def IsClose (cs : List Char) : Prop := cs = [] ∨ cs = [')']

/-- A place at the end of a frame: its line, perhaps a column, and perhaps a bracket. -/
inductive IsPlace (line : List Char) : List Char → Prop
  | ofLine {close : List Char} (hline : IsDigits line) (hclose : IsClose close) :
    IsPlace line (':' :: (line ++ close))
  | ofColumn {column close : List Char} (hline : IsDigits line) (hcolumn : IsDigits column)
    (hclose : IsClose close) : IsPlace line (':' :: (line ++ ':' :: (column ++ close)))

def NamesPlace (s : String) : Prop := ∃ line place, place <:+ s.toList ∧ IsPlace line place

/-- A frame at a line: the place that it has reached, in brackets behind the name of a function or
alone. The names are any texts, and nothing keeps them from looking like places themselves. -/
inductive FrameAt (n : Nat) : String → Prop
  | named {name file line column : String} {k : Nat} (hline : Spells line.toList n)
    (hcolumn : Spells column.toList k) :
    FrameAt n ("at " ++ name ++ " (" ++ file ++ ":" ++ line ++ ":" ++ column ++ ")")
  | bare {file line column : String} {k : Nat} (hline : Spells line.toList n)
    (hcolumn : Spells column.toList k) : FrameAt n ("at " ++ file ++ ":" ++ line ++ ":" ++ column)

/-! ## Places -/

theorem IsDigits.of_spells {n : Nat} (h : Spells cs n) : IsDigits cs :=
  ⟨h.ne_nil, fun c hc => Text.isDecimalDigit_of_isDigit (h.isDigit c hc)⟩

theorem IsDigits.colon_not_mem (h : IsDigits cs) : ':' ∉ cs := by
  intro hc
  have hcolon := h.2 ':' hc
  revert hcolon
  decide

theorem IsClose.colon_not_mem (h : IsClose cs) : ':' ∉ cs := by
  rcases h with rfl | rfl <;> decide

theorem endsFrame_iff : endsFrame cs = true ↔ IsClose cs := by
  simp [endsFrame, IsClose]

/-- The digits behind a colon end where no digit follows. -/
theorem colonDigits?_eq_some_iff {digits rest : List Char} :
    colonDigits? cs = some (digits, rest) ↔
      cs = ':' :: (digits ++ rest) ∧ IsDigits digits ∧
        ∀ c ∈ rest.head?, Text.isDecimalDigit c = false := by
  constructor
  · intro h
    unfold colonDigits? at h
    split at h
    · rename_i tail
      simp only [Option.ite_none_left_eq_some, Option.some.injEq, Prod.mk.injEq,
        List.isEmpty_iff] at h
      obtain ⟨hne, rfl, rfl⟩ := h
      refine ⟨by rw [List.takeWhile_append_dropWhile], ⟨hne, ?_⟩, ?_⟩
      · exact List.all_eq_true.mp List.all_takeWhile
      · intro c hc
        have hhead := List.head?_dropWhile_not Text.isDecimalDigit tail
        rw [hc] at hhead
        exact hhead
    · cases h
  · rintro ⟨rfl, ⟨hne, hdigits⟩, hrest⟩
    have htake : rest.takeWhile Text.isDecimalDigit = [] ∧
        rest.dropWhile Text.isDecimalDigit = rest := by
      cases rest with
      | nil => exact ⟨rfl, rfl⟩
      | cons c rest => simp [hrest c rfl]
    simp only [colonDigits?]
    rw [List.takeWhile_append_of_pos hdigits, List.dropWhile_append_of_pos hdigits, htake.1,
      htake.2, List.append_nil, if_neg (by simpa using hne)]

theorem colonDigits?_of_close (hcs : IsDigits cs) (hclose : IsClose close) :
    colonDigits? (':' :: (cs ++ close)) = some (cs, close) := by
  refine colonDigits?_eq_some_iff.mpr ⟨rfl, hcs, ?_⟩
  rcases hclose with rfl | rfl
  · simp
  · intro c hc
    cases hc
    decide

theorem colonDigits?_close (hclose : IsClose close) : colonDigits? close = none := by
  rcases hclose with rfl | rfl <;> rfl

theorem placeDigits?_eq_some_iff : placeDigits? cs = some line ↔ IsPlace line cs := by
  constructor
  · intro h
    unfold placeDigits? at h
    split at h
    · cases h
    rename_i digits rest hfirst
    obtain ⟨rfl, hdigits, -⟩ := colonDigits?_eq_some_iff.mp hfirst
    split at h
    · rename_i column close hsecond
      obtain ⟨hclose, heq⟩ := Option.ite_none_right_eq_some.mp h
      cases heq
      rw [Bool.or_eq_true, endsFrame_iff, endsFrame_iff] at hclose
      rcases hclose with hclose | hrest
      · obtain ⟨rfl, hcolumn, -⟩ := colonDigits?_eq_some_iff.mp hsecond
        exact .ofColumn hdigits hcolumn hclose
      · exact .ofLine hdigits hrest
    · obtain ⟨hrest, heq⟩ := Option.ite_none_right_eq_some.mp h
      cases heq
      exact .ofLine hdigits (endsFrame_iff.mp hrest)
  · rintro (⟨hline, hclose⟩ | ⟨hline, hcolumn, hclose⟩)
    · simp only [placeDigits?, colonDigits?_of_close hline hclose, colonDigits?_close hclose,
        endsFrame_iff.mpr hclose, if_true]
    · rename_i column close
      have hfirst : colonDigits? (':' :: (line ++ ':' :: (column ++ close))) =
          some (line, ':' :: (column ++ close)) := by
        refine colonDigits?_eq_some_iff.mpr ⟨rfl, hline, fun c hc => ?_⟩
        cases hc
        decide
      simp only [placeDigits?, hfirst, colonDigits?_of_close hcolumn hclose,
        endsFrame_iff.mpr hclose, Bool.true_or, if_true]

/-- A place starts with a colon and has at most one more. -/
theorem IsPlace.colons {c : Char} (h : IsPlace line (c :: cs)) : c = ':' ∧ cs.count ':' ≤ 1 := by
  cases h with
  | ofLine hline hclose =>
    simp [List.count_eq_zero.mpr hline.colon_not_mem, List.count_eq_zero.mpr hclose.colon_not_mem]
  | ofColumn hline hcolumn hclose =>
    simp [List.count_eq_zero.mpr hline.colon_not_mem,
      List.count_eq_zero.mpr hcolumn.colon_not_mem, List.count_eq_zero.mpr hclose.colon_not_mem]

/-! ## Frames -/

/-- The place that starts first counts. -/
theorem frameDigits?_eq_some_iff :
    frameDigits? cs = some line ↔ ∃ place, place <:+ cs ∧ IsPlace line place ∧
      ∀ l other, other <:+ cs → IsPlace l other → other.length ≤ place.length := by
  induction cs with
  | nil =>
    refine iff_of_false (by simp [frameDigits?]) ?_
    rintro ⟨place, hplace, h, -⟩
    cases List.suffix_nil.mp hplace
    cases h
  | cons c cs ih =>
    rw [frameDigits?]
    cases hhere : placeDigits? (c :: cs) with
    | some l =>
      have hl : IsPlace l (c :: cs) := placeDigits?_eq_some_iff.mp hhere
      rw [Option.some_or, Option.some.injEq]
      constructor
      · rintro rfl
        exact ⟨c :: cs, List.suffix_rfl, hl, fun _ _ hother _ => hother.length_le⟩
      · rintro ⟨place, hplace, hline, hfirst⟩
        obtain rfl := hplace.eq_of_length_le (hfirst l _ List.suffix_rfl hl)
        exact Option.some.inj (hhere.symm.trans (placeDigits?_eq_some_iff.mpr hline))
    | none =>
      have hnone : ∀ l, ¬IsPlace l (c :: cs) := by
        intro l hl
        rw [placeDigits?_eq_some_iff.mpr hl] at hhere
        cases hhere
      rw [Option.none_or, ih]
      constructor
      · rintro ⟨place, hplace, hline, hfirst⟩
        refine ⟨place, hplace.trans (List.suffix_cons c cs), hline, fun l other hother hl => ?_⟩
        rcases List.suffix_cons_iff.mp hother with rfl | hother
        · exact absurd hl (hnone l)
        · exact hfirst l other hother hl
      · rintro ⟨place, hplace, hline, hfirst⟩
        rcases List.suffix_cons_iff.mp hplace with rfl | hplace
        · exact absurd hline (hnone line)
        · exact ⟨place, hplace, hline, fun l other hother =>
            hfirst l other (hother.trans (List.suffix_cons c cs))⟩

theorem frameDigits?_eq_none_iff :
    frameDigits? cs = none ↔ ∀ line place, place <:+ cs → ¬IsPlace line place := by
  induction cs with
  | nil =>
    refine iff_of_true rfl fun line place hplace hline => ?_
    cases List.suffix_nil.mp hplace
    cases hline
  | cons c cs ih =>
    rw [frameDigits?, Option.or_eq_none_iff, ih]
    constructor
    · rintro ⟨hhere, hrest⟩ line place hplace hline
      rcases List.suffix_cons_iff.mp hplace with rfl | hplace
      · rw [placeDigits?_eq_some_iff.mpr hline] at hhere
        cases hhere
      · exact hrest line place hplace hline
    · intro h
      refine ⟨?_, fun line place hplace => h line place (hplace.trans (List.suffix_cons c cs))⟩
      rw [Option.eq_none_iff_forall_not_mem]
      exact fun line hline => h line _ List.suffix_rfl (placeDigits?_eq_some_iff.mp hline)

theorem isSome_frameDigits?_iff {s : String} :
    (frameDigits? s.toList).isSome = true ↔ NamesPlace s := by
  rw [Option.isSome_iff_ne_none, Ne, frameDigits?_eq_none_iff]
  simp [NamesPlace]

instance (s : String) : Decidable (NamesPlace s) := decidable_of_iff _ isSome_frameDigits?_iff

/-- No place starts in front of one with a column, since it would have three colons. -/
theorem frameDigits?_of_column (hline : IsDigits line) (hcolumn : IsDigits column)
    (hclose : IsClose close) :
    frameDigits? (before ++ ':' :: (line ++ ':' :: (column ++ close))) = some line := by
  refine frameDigits?_eq_some_iff.mpr
    ⟨_, List.suffix_append _ _, .ofColumn hline hcolumn hclose, fun l other hother hl => ?_⟩
  refine Nat.le_of_not_lt fun hlonger => ?_
  cases other with
  | nil => cases hl
  | cons c rest =>
    have hend : ':' :: (line ++ ':' :: (column ++ close)) <:+ rest :=
      List.suffix_of_suffix_length_le (List.suffix_append _ _)
        ((List.suffix_cons c rest).trans hother) (Nat.le_of_lt_succ hlonger)
    have htwo : 2 ≤ (':' :: (line ++ ':' :: (column ++ close))).count ':' := by
      simp only [List.count_cons_self, List.count_append]
      omega
    have hone := hl.colons.2
    have hcount := hend.sublist.count_le ':'
    omega

theorem FrameAt.exists_digits {n : Nat} {s : String} (h : FrameAt n s) :
    ∃ line, frameDigits? s.toList = some line ∧ Spells line n := by
  cases h with
  | @named name file line column k hline hcolumn =>
    refine ⟨line.toList, ?_, hline⟩
    have hsplit : ("at " ++ name ++ " (" ++ file ++ ":" ++ line ++ ":" ++ column ++ ")").toList =
        ("at " ++ name ++ " (" ++ file).toList ++
          ':' :: (line.toList ++ ':' :: (column.toList ++ [')'])) := by
      simp
    rw [hsplit, frameDigits?_of_column (.of_spells hline) (.of_spells hcolumn) (.inr rfl)]
  | @bare file line column k hline hcolumn =>
    refine ⟨line.toList, ?_, hline⟩
    have hsplit : ("at " ++ file ++ ":" ++ line ++ ":" ++ column).toList =
        ("at " ++ file).toList ++ ':' :: (line.toList ++ ':' :: (column.toList ++ [])) := by
      simp
    rw [hsplit, frameDigits?_of_column (.of_spells hline) (.of_spells hcolumn) (.inl rfl)]

theorem lineNumber?_of_spells {n : Nat} (h : Spells line n) :
    lineNumber? line = if n < 2147483648 then some (n : Int) else none := by
  have hvalue : Text.digitsValue line = n := (Text.digitsValue_eq line).trans h.ofDigitChars
  rw [lineNumber?, if_pos (List.all_eq_true.mpr h.isDigit)]
  change (if Text.digitsValue line < _ then some (Text.digitsValue line : Int) else none) = _
  rw [hvalue]

/-! ## Lines -/

def withoutReturn (line : List Char) : List Char :=
  if line.getLast? = some '\r' then line.dropLast else line

/-- A line feed ends the line that has been read so far. -/
theorem linesOf_go_lineFeed (start rest : List Char) :
    linesOf.go start ('\n' :: rest) = withoutReturn start.reverse :: linesOf.go [] rest := by
  cases start with
  | nil => rfl
  | cons c start =>
    by_cases hc : c = '\r'
    · subst hc
      simp [linesOf.go, withoutReturn]
    · rw [linesOf.go, withoutReturn, if_neg (by simpa using hc)]
      exact fun rest h => hc (List.cons.inj h).1

theorem linesOf_go_append {start rest : List Char} (h : '\n' ∉ line) :
    linesOf.go start (line ++ '\n' :: rest) =
      withoutReturn (start.reverse ++ line) :: linesOf.go [] rest := by
  induction line generalizing start with
  | nil => rw [List.nil_append, linesOf_go_lineFeed, List.append_nil]
  | cons c line ih =>
    obtain ⟨hc, hline⟩ := List.ne_and_not_mem_of_not_mem_cons h
    rw [List.cons_append, linesOf.go, ih hline, List.reverse_cons, List.append_assoc,
      List.singleton_append]
    exact Ne.symm hc

theorem linesOf_go_of_not_mem {start : List Char} (h : '\n' ∉ line) :
    linesOf.go start line =
      if start.reverse ++ line = [] then [] else [start.reverse ++ line] := by
  induction line generalizing start with
  | nil => cases start <;> simp [linesOf.go]
  | cons c line ih =>
    obtain ⟨hc, hline⟩ := List.ne_and_not_mem_of_not_mem_cons h
    rw [linesOf.go, ih hline, List.reverse_cons, List.append_assoc, List.singleton_append]
    exact Ne.symm hc

theorem trimChars_withoutReturn (line : List Char) :
    Text.trimChars (withoutReturn line) = Text.trimChars line := by
  rw [withoutReturn]
  split
  · rename_i hlast
    obtain ⟨line, rfl⟩ := List.getLast?_eq_some_iff.mp hlast
    rw [List.dropLast_concat, Text.trimChars_concat (by decide)]
  · rfl

/-- A search through the lines of a text that does not look at carriage returns at their ends and
finds nothing in an empty line. -/
theorem findSome?_linesOf_go {β : Type} {f : List Char → Option β} {lines : List (List Char)}
    (hnil : f [] = none) (hreturn : ∀ line, f (withoutReturn line) = f line)
    (h : ∀ line ∈ lines, '\n' ∉ line) :
    (linesOf.go [] (['\n'].intercalate lines)).findSome? f = lines.findSome? f := by
  induction lines with
  | nil => rfl
  | cons line lines ih =>
    obtain ⟨hline, hlines⟩ := List.forall_mem_cons.mp h
    cases lines with
    | nil =>
      rw [List.intercalate_singleton, linesOf_go_of_not_mem hline, List.reverse_nil,
        List.nil_append]
      split
      · rename_i hempty
        simp [hempty, hnil]
      · rfl
    | cons next lines =>
      rw [List.intercalate_cons_cons, List.append_assoc, List.singleton_append,
        linesOf_go_append hline, List.findSome?_cons, List.findSome?_cons, ih hlines,
        List.reverse_nil, List.nil_append, hreturn]

/-- The line of a stack is that of the first of its lines that names a place. -/
theorem stackLine?_intercalate {lines : List String} (h : ∀ s ∈ lines, '\n' ∉ s.toList) :
    stackLine? ("\n".intercalate lines) =
      (lines.findSome? fun s => frameDigits? (Text.trim s).toList).bind lineNumber? := by
  have hlines : (linesOf ("\n".intercalate lines)).findSome?
      (fun s => frameDigits? (Text.trimChars s.toList)) =
        lines.findSome? fun s => frameDigits? (Text.trim s).toList := by
    have hsearch := findSome?_linesOf_go (f := fun line => frameDigits? (Text.trimChars line)) rfl
      (fun line => by rw [trimChars_withoutReturn]) (List.forall_mem_map.mpr h)
    rw [linesOf, String.toList_intercalate, List.findSome?_map]
    rw [List.findSome?_map] at hsearch
    simpa [Function.comp_def, Text.trim] using hsearch
  rw [stackLine?, hlines]
  cases lines.findSome? fun s => frameDigits? (Text.trim s).toList <;> rfl

/-- The line of a stack is that of its first frame behind lines that name no place. -/
theorem stackLine?_of_frameAt {skipped further : List String} {frame : String} {n : Nat}
    (hbreaks : ∀ s ∈ skipped ++ frame :: further, '\n' ∉ s.toList)
    (hskipped : ∀ s ∈ skipped, ¬NamesPlace (Text.trim s)) (hframe : FrameAt n (Text.trim frame)) :
    stackLine? ("\n".intercalate (skipped ++ frame :: further)) =
      if n < 2147483648 then some (n : Int) else none := by
  obtain ⟨line, hdigits, hline⟩ := hframe.exists_digits
  have hnone : skipped.findSome? (fun s => frameDigits? (Text.trim s).toList) = none := by
    refine List.findSome?_eq_none_iff.mpr fun s hs => ?_
    rw [← Option.not_isSome_iff_eq_none, isSome_frameDigits?_iff]
    exact hskipped s hs
  rw [stackLine?_intercalate hbreaks, List.findSome?_append, hnone, Option.none_or,
    List.findSome?_cons, hdigits, Option.bind_some, lineNumber?_of_spells hline]

-- A line that does not fit ends the search as well.
example : stackLine? "at a (f:2147483648:1)\nat b (f:1:1)" = none := by decide +kernel

end Script

end ContentSource
