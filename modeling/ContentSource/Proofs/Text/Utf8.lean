import ContentSource.Text.Utf8

/-! # Reading what was written in UTF-8

A character is read back from its bytes, whatever follows them. So every text is read back as it was
written, whole. Bytes that were not written so can be read in parts that begin with an ASCII byte.
-/
namespace ContentSource.Text.Utf8

/-- A character is no half of a pair. -/
theorem toNat_valid (c : Char) : c.toNat < 0xD800 ∨ 0xDFFF < c.toNat ∧ c.toNat < 0x110000 := c.valid

theorem toNat_byte {n : Nat} (h : n < 256) : (UInt8.ofNat n).toNat = n := by
  rw [UInt8.toNat_ofNat', Nat.mod_eq_of_lt (by simpa using h)]

section Continuation

variable {p : Pending} {n : Nat}

theorem decodeFrom_last (bs : List UInt8) (hn : n < 64) (hlow : p.low ≤ 0x80 + n)
    (hhigh : 0x80 + n ≤ p.high) (hm : p.missing ≤ 1) :
    decodeFrom (some p) (UInt8.ofNat (0x80 + n) :: bs) =
      Char.ofNat (p.bits * 64 + n) :: decodeFrom none bs := by
  have hb : (UInt8.ofNat (0x80 + n)).toNat = 0x80 + n := toNat_byte (by omega)
  simp only [decodeFrom, hb, hlow, hhigh, and_self, if_true, hm, Nat.add_sub_cancel_left]

theorem decodeFrom_middle (bs : List UInt8) (hn : n < 64) (hlow : p.low ≤ 0x80 + n)
    (hhigh : 0x80 + n ≤ p.high) (hm : ¬p.missing ≤ 1) :
    decodeFrom (some p) (UInt8.ofNat (0x80 + n) :: bs) =
      decodeFrom (some ⟨p.bits * 64 + n, p.missing - 1, 0x80, 0xBF⟩) bs := by
  have hb : (UInt8.ofNat (0x80 + n)).toNat = 0x80 + n := toNat_byte (by omega)
  simp only [decodeFrom, hb, hlow, hhigh, and_self, if_true, hm, if_false, Nat.add_sub_cancel_left]

end Continuation

theorem lead_ascii {n : Nat} (h : n < 0x80) : lead (UInt8.ofNat n) = .done (Char.ofNat n) := by
  simp only [lead, toNat_byte (show n < 256 by omega), h, if_true]

theorem lead_two {n : Nat} (h : 2 ≤ n) (h' : n < 32) :
    lead (UInt8.ofNat (0xC0 + n)) = .more ⟨n, 1, 0x80, 0xBF⟩ := by
  have hb : (UInt8.ofNat (0xC0 + n)).toNat = 0xC0 + n := toNat_byte (by omega)
  rw [lead, hb, if_neg (by omega), if_neg (by omega), if_pos (by omega), Nat.add_sub_cancel_left]

theorem lead_three {n : Nat} (h : n < 16) : lead (UInt8.ofNat (0xE0 + n)) =
    .more ⟨n, 2, if n = 0 then 0xA0 else 0x80, if n = 13 then 0x9F else 0xBF⟩ := by
  have hb : (UInt8.ofNat (0xE0 + n)).toNat = 0xE0 + n := toNat_byte (by omega)
  have hlow : 0xE0 + n = 0xE0 ↔ n = 0 := by omega
  have hhigh : 0xE0 + n = 0xED ↔ n = 13 := by omega
  simp only [lead, hb, hlow, hhigh, Nat.add_sub_cancel_left]
  rw [if_neg (by omega), if_neg (by omega), if_neg (by omega), if_pos (by omega)]

theorem lead_four {n : Nat} (h : n < 5) : lead (UInt8.ofNat (0xF0 + n)) =
    .more ⟨n, 3, if n = 0 then 0x90 else 0x80, if n = 4 then 0x8F else 0xBF⟩ := by
  have hb : (UInt8.ofNat (0xF0 + n)).toNat = 0xF0 + n := toNat_byte (by omega)
  have hlow : 0xF0 + n = 0xF0 ↔ n = 0 := by omega
  have hhigh : 0xF0 + n = 0xF4 ↔ n = 4 := by omega
  simp only [lead, hb, hlow, hhigh, Nat.add_sub_cancel_left]
  rw [if_neg (by omega), if_neg (by omega), if_neg (by omega), if_neg (by omega), if_pos (by omega)]

/-- A character is read back from its bytes. -/
theorem decodeFrom_encodeChar (c : Char) (bs : List UInt8) :
    decodeFrom none (encodeChar c ++ bs) = c :: decodeFrom none bs := by
  have hvalid := toNat_valid c
  have hread : ∀ n, n = c.toNat → Char.ofNat n = c := by
    rintro n rfl
    exact Char.ofNat_toNat c
  unfold encodeChar
  generalize c.toNat = n at hvalid hread
  dsimp only
  split
  · rename_i h1
    simp only [List.cons_append, List.nil_append, decodeFrom, lead_ascii h1, hread n rfl]
  · split
    · rename_i h1 h2
      simp only [List.cons_append, List.nil_append]
      rw [decodeFrom, lead_two (by omega) (by omega)]
      dsimp only
      rw [decodeFrom_last bs (by omega) (by simp) (by simp; omega) (by simp)]
      rw [hread _ (by dsimp only; omega)]
    · split
      · rename_i h1 h2 h3
        simp only [List.cons_append, List.nil_append]
        rw [decodeFrom, lead_three (by omega)]
        dsimp only
        rw [decodeFrom_middle _ (by omega) (by dsimp only; split <;> omega)
          (by dsimp only; split <;> omega) (by simp)]
        rw [decodeFrom_last bs (by omega) (by simp) (by simp; omega) (by simp)]
        rw [hread _ (by dsimp only; omega)]
      · rename_i h1 h2 h3
        simp only [List.cons_append, List.nil_append]
        rw [decodeFrom, lead_four (by omega)]
        dsimp only
        rw [decodeFrom_middle _ (by omega) (by dsimp only; split <;> omega)
          (by dsimp only; split <;> omega) (by simp)]
        rw [decodeFrom_middle _ (by omega) (by simp) (by simp; omega) (by simp)]
        rw [decodeFrom_last bs (by omega) (by simp) (by simp; omega) (by simp)]
        rw [hread _ (by dsimp only; omega)]

theorem decodeBytes_encodeChars (cs : List Char) : decodeBytes (encodeChars cs) = cs := by
  unfold decodeBytes
  induction cs with
  | nil => rfl
  | cons c cs ih =>
    rw [encodeChars, List.flatMap_cons, decodeFrom_encodeChar]
    exact congrArg (c :: ·) ih

theorem decode_encode (s : String) : decode (encode s) = s := by
  rw [decode, encode, decodeBytes_encodeChars, String.ofList_toList]

/-! ## Texts in parts -/

theorem encode_append (s t : String) : encode (s ++ t) = encode s ++ encode t := by
  rw [encode, encode, encode, String.toList_append, encodeChars, List.flatMap_append]
  rfl

/-- Only an ASCII character has an ASCII byte. -/
theorem toNat_of_mem_encodeChar {c : Char} {b : UInt8} (h : b ∈ encodeChar c)
    (hb : b.toNat < 0x80) : c.toNat = b.toNat := by
  have hvalid := toNat_valid c
  unfold encodeChar at h
  generalize c.toNat = n at h hvalid
  dsimp only at h
  split at h
  · obtain rfl := List.mem_singleton.mp h
    exact (toNat_byte (by omega)).symm
  -- Every byte of a longer character is beyond ASCII.
  split at h
  · simp only [List.mem_cons, List.not_mem_nil, or_false] at h
    rcases h with rfl | rfl <;> rw [toNat_byte (by omega)] at hb <;> omega
  split at h
  · simp only [List.mem_cons, List.not_mem_nil, or_false] at h
    rcases h with rfl | rfl | rfl <;> rw [toNat_byte (by omega)] at hb <;> omega
  · simp only [List.mem_cons, List.not_mem_nil, or_false] at h
    rcases h with rfl | rfl | rfl | rfl <;> rw [toNat_byte (by omega)] at hb <;> omega

/-- A byte that does not fit breaks off the character that has been begun. -/
theorem decodeFrom_broken {p : Pending} {b : UInt8} (h : ¬(p.low ≤ b.toNat ∧ b.toNat ≤ p.high))
    (bs : List UInt8) :
    decodeFrom (some p) (b :: bs) = replacement :: decodeFrom none (b :: bs) := by
  simp only [decodeFrom, h, if_false]

theorem low_of_lead {b : UInt8} {p : Pending} (h : lead b = .more p) : 0x80 ≤ p.low := by
  unfold lead at h
  dsimp only at h
  split at h
  · cases h
  split at h
  · cases h
  split at h
  · simp only [Lead.more.injEq] at h
    subst h
    exact Nat.le_refl _
  split at h
  · simp only [Lead.more.injEq] at h
    subst h
    dsimp only
    split <;> omega
  split at h
  · simp only [Lead.more.injEq] at h
    subst h
    dsimp only
    split <;> omega
  · cases h

/-- No character goes on with an ASCII byte, so reading begins anew there. -/
theorem decodeFrom_append_ascii {p : Option Pending} (hp : ∀ q ∈ p, 0x80 ≤ q.low)
    (bs : List UInt8) {b : UInt8} (hb : b.toNat < 0x80) (rest : List UInt8) :
    decodeFrom p (bs ++ b :: rest) = decodeFrom p bs ++ decodeFrom none (b :: rest) := by
  induction bs generalizing p with
  | nil =>
    cases p with
    | none => rfl
    | some q =>
      have hq : 0x80 ≤ q.low := hp q rfl
      exact decodeFrom_broken (by omega) rest
  | cons a bs ih =>
    generalize decodeFrom none (b :: rest) = read at ih ⊢
    have hnone : decodeFrom none (a :: (bs ++ b :: rest)) = decodeFrom none (a :: bs) ++ read := by
      simp only [decodeFrom]
      cases hlead : lead a with
      | done c => exact congrArg (c :: ·) (ih (by simp))
      | more q => exact ih (by simpa using low_of_lead hlead)
      | bad => exact congrArg (replacement :: ·) (ih (by simp))
    cases p with
    | none => exact hnone
    | some q =>
      rw [List.cons_append]
      by_cases hin : q.low ≤ a.toNat ∧ a.toNat ≤ q.high
      · simp only [decodeFrom, hin, and_self, if_true]
        split
        · rw [ih (p := none) (by simp), List.cons_append]
        · exact ih fun next hnext => Option.some.inj hnext ▸ Nat.le_refl _
      · rw [decodeFrom_broken hin, decodeFrom_broken hin, hnone, List.cons_append]

/-- At an ASCII byte a text can be read in two parts, even if a character is cut off before it. -/
theorem decodeBytes_append_ascii (bs : List UInt8) {b : UInt8} (hb : b.toNat < 0x80)
    (rest : List UInt8) :
    decodeBytes (bs ++ b :: rest) = decodeBytes bs ++ Char.ofNat b.toNat :: decodeBytes rest := by
  have hlead : lead b = .done (Char.ofNat b.toNat) := if_pos hb
  rw [decodeBytes, decodeFrom_append_ascii (by simp) bs hb, decodeFrom, hlead]
  rfl

end ContentSource.Text.Utf8
