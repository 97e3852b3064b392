import ContentSource.CacheTime
import ContentSource.Proofs.Text.Numeral

/-! # Exact cache times

The texts that state a cache time are runs of decimal digits, which state none, and numerals with a
unit whose count and hours fit 32 bits. Such a time is exact: the hours of a time that fit 32 bits
are so few that neither its seconds nor its milliseconds reach 64 bits.
-/
namespace ContentSource.CacheTime

open Text (Spells)

def hoursIn : List (Char × Nat) := [('h', 1), ('d', 24), ('w', 168), ('m', 720), ('y', 8760)]

/-- The milliseconds that a text states. -/
inductive States (text : String) : Nat → Prop
  | none : text ≠ "" → (∀ c ∈ text.toList, Text.isDecimalDigit c = true) → States text 0
  | some {digits : List Char} {u : Char} {n hours : Nat} : text.toList = digits ++ [u] →
    Spells digits n → (u, hours) ∈ hoursIn → n < UInt32.size → n * hours < UInt32.size →
    States text (n * hours * 3600000)

/-! ## How a time is written -/

theorem not_isDecimalDigit_of_mem_units {u : Char} (hu : u ∈ units) :
    Text.isDecimalDigit u = false := by
  simp only [units, List.mem_cons, List.not_mem_nil, or_false] at hu
  rcases hu with rfl | rfl | rfl | rfl | rfl <;> decide

/-- A time is written as a run of decimal digits with no unit or one of the units behind it. -/
theorem split?_eq_some_iff {cs digits : List Char} {unit : Option Char} :
    split? cs = some (digits, unit) ↔
      cs = digits ++ unit.toList ∧ digits ≠ [] ∧ (∀ c ∈ digits, Text.isDecimalDigit c = true) ∧
        ∀ u, unit = some u → u ∈ units := by
  constructor
  · intro h
    have hall : ∀ c ∈ cs.takeWhile Text.isDecimalDigit, Text.isDecimalDigit c = true :=
      List.all_eq_true.mp List.all_takeWhile
    have hwhole := List.takeWhile_append_dropWhile (p := Text.isDecimalDigit) (l := cs)
    unfold split? at h
    split at h
    · cases h
    · rename_i hrest hne
      cases h
      rw [hrest] at hwhole
      exact ⟨hwhole.symm, hne, hall, by simp⟩
    · rename_i hrest hne
      obtain ⟨hu, heq⟩ := Option.ite_none_right_eq_some.mp h
      cases heq
      rw [hrest] at hwhole
      exact ⟨hwhole.symm, hne, hall, by simpa using hu⟩
    · cases h
  · rintro ⟨rfl, hne, hdigits, hunit⟩
    have htake : (digits ++ unit.toList).takeWhile Text.isDecimalDigit = digits := by
      rw [List.takeWhile_append_of_pos hdigits]
      cases unit with
      | none => simp
      | some u => simp [not_isDecimalDigit_of_mem_units (hunit u rfl)]
    have hdrop : (digits ++ unit.toList).dropWhile Text.isDecimalDigit = unit.toList := by
      rw [List.dropWhile_append_of_pos hdigits]
      cases unit with
      | none => simp
      | some u => simp [not_isDecimalDigit_of_mem_units (hunit u rfl)]
    rw [split?, htake, hdrop]
    cases unit with
    | none => simp
    | some u => simp [hunit u rfl]

theorem exists_unitHours?_of_mem {u : Char} (hu : u ∈ units) : ∃ hours, unitHours? u = some hours := by
  simp only [units, List.mem_cons, List.not_mem_nil, or_false] at hu
  rcases hu with rfl | rfl | rfl | rfl | rfl <;> exact ⟨_, rfl⟩

theorem unitHours?_eq_some_iff {u : Char} {hours : UInt32} :
    unitHours? u = some hours ↔ (u, hours.toNat) ∈ hoursIn := by
  simp only [hoursIn, List.mem_cons, Prod.mk.injEq, List.not_mem_nil, or_false]
  constructor
  · intro h
    unfold unitHours? at h
    split at h <;> cases h <;> simp
  · rintro (⟨rfl, h⟩ | ⟨rfl, h⟩ | ⟨rfl, h⟩ | ⟨rfl, h⟩ | ⟨rfl, h⟩) <;>
      simp [unitHours?, ← UInt32.toNat_inj, h]

theorem exists_unitHours?_of_mem_hoursIn {u : Char} {hours : Nat} (h : (u, hours) ∈ hoursIn) :
    u ∈ units ∧ ∃ k : UInt32, unitHours? u = some k ∧ k.toNat = hours := by
  simp only [hoursIn, List.mem_cons, Prod.mk.injEq, List.not_mem_nil, or_false] at h
  rcases h with ⟨rfl, rfl⟩ | ⟨rfl, rfl⟩ | ⟨rfl, rfl⟩ | ⟨rfl, rfl⟩ | ⟨rfl, rfl⟩ <;>
    exact ⟨by decide, _, rfl, rfl⟩

/-! ## What fits -/

theorem count?_eq_some_iff {cs : List Char} {n : UInt32} :
    count? cs = some n ↔ Spells cs n.toNat := by
  simp only [count?, Option.bind_eq_some_iff, Text.readDigits?_eq_some_iff,
    Option.ite_none_right_eq_some, Option.some.injEq]
  constructor
  · rintro ⟨k, hk, hlt, rfl⟩
    rwa [UInt32.toNat_ofNat_of_lt' hlt]
  · intro h
    exact ⟨n.toNat, h, n.toNat_lt, UInt32.ofNat_toNat⟩

theorem mul?_eq_some_iff {a b c : UInt32} : mul? a b = some c ↔ a.toNat * b.toNat = c.toNat := by
  rw [mul?, Option.ite_none_right_eq_some, Option.some.injEq, ← UInt32.toNat_inj, UInt32.toNat_mul]
  have hc := c.toNat_lt
  constructor
  · rintro ⟨hlt, h⟩
    rwa [Nat.mod_eq_of_lt hlt] at h
  · intro h
    have hlt : a.toNat * b.toNat < 4294967296 := h ▸ hc
    exact ⟨hlt, by rwa [Nat.mod_eq_of_lt hlt]⟩

/-- So many hours always fit, since the seconds of 2^32 hours are below 2^44. -/
theorem hour_times? (k : UInt32) :
    ∃ t, Span.hour.times? k = some t ∧ t.seconds.toNat = 3600 * k.toNat := by
  have hk := k.toNat_lt
  have hfits : Span.hour.seconds.toNat * k.toNat < 18446744073709551616 := by
    simp [Span.hour]
    omega
  refine ⟨_, if_pos hfits, ?_⟩
  simp [Span.hour, UInt64.toNat_mul]
  omega

/-- Nothing is cut off from the milliseconds of so many hours. -/
theorem millis_toNat {t : Span} {k : UInt32} (ht : t.seconds.toNat = 3600 * k.toNat) :
    t.millis.toNat = t.seconds.toNat * 1000 := by
  have hk := k.toNat_lt
  rw [Span.millis, UInt64.toNat_ofNat_of_lt']
  change t.seconds.toNat * 1000 < 18446744073709551616
  omega

/-! ## Reading -/

theorem read_eq_ok_iff {text : String} {t : Span} :
    read text = .ok t ↔
      (∃ digits, split? text.toList = some (digits, none) ∧ t = .zero) ∨
        ∃ digits u hours n k, split? text.toList = some (digits, some u) ∧
          unitHours? u = some hours ∧ count? digits = some n ∧ mul? n hours = some k ∧
          Span.hour.times? k = some t := by
  unfold read
  cases hsplit : split? text.toList with
  | none => simp
  | some written =>
    obtain ⟨digits, unit⟩ := written
    cases unit with
    | none => simp [eq_comm]
    | some u =>
      cases hu : unitHours? u with
      | none => simp [hu]
      | some hours =>
        simp only [Option.some.injEq, Prod.mk.injEq, reduceCtorEq, and_false, false_and,
          exists_false, false_or, and_assoc, hu]
        constructor
        · intro h
          split at h
          · cases h
          · cases h
            rename_i htimes
            obtain ⟨k, hk, ht⟩ := Option.bind_eq_some_iff.mp htimes
            obtain ⟨n, hn, hmul⟩ := Option.bind_eq_some_iff.mp hk
            exact ⟨digits, u, hours, n, k, rfl, rfl, hu, hn, hmul, ht⟩
        · rintro ⟨_, _, hours', n, k, rfl, rfl, hu', hn, hmul, ht⟩
          cases hu.symm.trans hu'
          simp only [hn, hmul, ht, Option.bind_some]

/-- Whatever is written as a unit is one. -/
theorem read_ne_unknownUnit (text : String) (u : Char) : read text ≠ .error (.unknownUnit u) := by
  unfold read
  cases hsplit : split? text.toList with
  | none => simp
  | some written =>
    obtain ⟨digits, unit⟩ := written
    cases unit with
    | none => simp
    | some v =>
      obtain ⟨hours, hv⟩ :=
        exists_unitHours?_of_mem ((split?_eq_some_iff.mp hsplit).2.2.2 v rfl)
      simp only [hv]
      split <;> simp

theorem parse_ne_unknownUnit (text : String) (u : Char) : parse text ≠ .error (.unknownUnit u) := by
  intro h
  cases hread : read text with
  | ok t => simp [parse, hread, Except.map] at h
  | error refusal =>
    refine read_ne_unknownUnit text u ?_
    simpa [parse, hread, Except.map] using h

/-- A time that is read is a number of hours that fits 32 bits. -/
theorem exists_hours_of_read {text : String} {t : Span} (h : read text = .ok t) :
    ∃ k : UInt32, t.seconds.toNat = 3600 * k.toNat := by
  rcases read_eq_ok_iff.mp h with ⟨digits, -, rfl⟩ | ⟨digits, u, hours, n, k, -, -, -, -, ht⟩
  · exact ⟨0, rfl⟩
  · obtain ⟨t', ht', hseconds⟩ := hour_times? k
    cases ht.symm.trans ht'
    exact ⟨k, hseconds⟩

theorem parse_eq_ok_iff {text : String} {ms : Nat} : parse text = .ok ms ↔ States text ms := by
  constructor
  · intro h
    cases hread : read text with
    | error => simp [parse, hread, Except.map] at h
    | ok t =>
      obtain rfl : t.millis.toNat = ms := by simpa [parse, hread, Except.map] using h
      rcases read_eq_ok_iff.mp hread with
        ⟨digits, hsplit, rfl⟩ | ⟨digits, u, hours, n, k, hsplit, hu, hn, hk, ht⟩
      · obtain ⟨htext, hne, hdigits, -⟩ := split?_eq_some_iff.mp hsplit
        simp only [Option.toList_none, List.append_nil] at htext
        refine .none ?_ (htext ▸ hdigits)
        rintro rfl
        exact hne htext.symm
      · obtain ⟨htext, -, -, -⟩ := split?_eq_some_iff.mp hsplit
        obtain ⟨t', ht', hseconds⟩ := hour_times? k
        cases ht.symm.trans ht'
        rw [mul?_eq_some_iff] at hk
        have hmillis : t.millis.toNat = n.toNat * hours.toNat * 3600000 := by
          rw [millis_toNat hseconds, hseconds, hk]
          omega
        rw [hmillis]
        exact .some htext (count?_eq_some_iff.mp hn) (unitHours?_eq_some_iff.mp hu) n.toNat_lt
          (hk ▸ k.toNat_lt)
  · rintro (⟨hne, hdigits⟩ | ⟨htext, hspells, hu, hn, hk⟩)
    · have hsplit : split? text.toList = some (text.toList, none) :=
        split?_eq_some_iff.mpr ⟨by simp, by simpa using hne, hdigits, by simp⟩
      have hread : read text = .ok .zero := read_eq_ok_iff.mpr (.inl ⟨_, hsplit, rfl⟩)
      simp [parse, hread, Except.map, Span.zero, Span.millis]
    · rename_i digits u n hours
      obtain ⟨hunit, hours, hhours, rfl⟩ := exists_unitHours?_of_mem_hoursIn hu
      have hsplit : split? text.toList = some (digits, some u) :=
        split?_eq_some_iff.mpr ⟨htext, hspells.ne_nil,
          fun c hc => Text.isDecimalDigit_of_isDigit (hspells.isDigit c hc), by simpa using hunit⟩
      have hcount : count? digits = some (UInt32.ofNat n) :=
        count?_eq_some_iff.mpr (by rwa [UInt32.toNat_ofNat_of_lt' hn])
      have hmul : mul? (UInt32.ofNat n) hours = some (UInt32.ofNat (n * hours.toNat)) :=
        mul?_eq_some_iff.mpr (by rw [UInt32.toNat_ofNat_of_lt' hn, UInt32.toNat_ofNat_of_lt' hk])
      obtain ⟨t, ht, hseconds⟩ := hour_times? (UInt32.ofNat (n * hours.toNat))
      have hread : read text = .ok t :=
        read_eq_ok_iff.mpr (.inr ⟨_, _, _, _, _, hsplit, hhours, hcount, hmul, ht⟩)
      have hmillis : t.millis.toNat = n * hours.toNat * 3600000 := by
        rw [millis_toNat hseconds, hseconds, UInt32.toNat_ofNat_of_lt' hk]
        omega
      simp [parse, hread, Except.map, hmillis]

inductive Gives : Option String → Nat → Prop
  | absent : Gives none 86400000
  | stated {text : String} {ms : Nat} : States text ms → Gives (some text) ms

theorem default_eq : default = 86400000 := by
  simp [default, Span.millis, Span.day]

theorem ofAttribute_eq_ok_iff {stated : Option String} {ms : Nat} :
    ofAttribute stated = .ok ms ↔ Gives stated ms := by
  constructor
  · intro h
    cases stated with
    | none =>
      obtain rfl : default = ms := Except.ok.inj h
      rw [default_eq]
      exact .absent
    | some text => exact .stated (parse_eq_ok_iff.mp h)
  · rintro (_ | hstates)
    · exact congrArg Except.ok default_eq
    · exact parse_eq_ok_iff.mpr hstates

/-- A text that states no time is refused, over its form or its size. -/
theorem parse_eq_error {text : String} (h : ∀ ms, ¬ States text ms) :
    ∃ refusal, parse text = .error refusal ∧ (refusal = .malformed ∨ refusal = .outOfRange) := by
  cases hparse : parse text with
  | ok ms => exact absurd (parse_eq_ok_iff.mp hparse) (h ms)
  | error refusal =>
    refine ⟨refusal, rfl, ?_⟩
    cases refusal with
    | malformed => exact .inl rfl
    | unknownUnit u => exact absurd hparse (parse_ne_unknownUnit text u)
    | outOfRange => exact .inr rfl

end ContentSource.CacheTime
