import ContentSource.Proofs.FormText

/-! # Escapes in form text

What is written is form text: each character stands for itself or is part of an escape. What is read
may be any text. A percent sign begins an escape only if two hexadecimal digits follow, so reading
begins anew at every percent sign, and a text without escapes and plus signs stands for itself.
-/
namespace ContentSource.FormText

open Text.Utf8 (encodeChar encodeChars decodeBytes)

/-! ## What is written -/

def IsKept (c : Char) : Prop := c.isAlphanum = true ∨ c ∈ ['*', '-', '.', '_', '+']

def IsUpperHex (c : Char) : Prop := c ∈ "0123456789ABCDEF".toList

instance (c : Char) : Decidable (IsKept c) := inferInstanceAs (Decidable (_ ∨ _))

instance (c : Char) : Decidable (IsUpperHex c) := inferInstanceAs (Decidable (_ ∈ _))

/-- Characters that are kept and escapes, one after the other. -/
inductive IsFormText : List Char → Prop
  | nil : IsFormText []
  | kept {c : Char} {cs : List Char} : IsKept c → IsFormText cs → IsFormText (c :: cs)
  | escape {a b : Char} {cs : List Char} : IsUpperHex a → IsUpperHex b → IsFormText cs →
    IsFormText ('%' :: a :: b :: cs)

theorem isKept_of_isPlain {b : UInt8} (h : isPlain b = true) : IsKept (Char.ofNat b.toNat) := by
  have hlt := (isPlain_bounds h).1
  have hchar : (Char.ofNat b.toNat).toNat = b.toNat := Text.toNat_char (by omega)
  have halnum : (Char.ofNat b.toNat).isAlphanum = true ↔
      (0x30 ≤ b.toNat ∧ b.toNat ≤ 0x39) ∨ (0x41 ≤ b.toNat ∧ b.toNat ≤ 0x5A) ∨
        (0x61 ≤ b.toNat ∧ b.toNat ≤ 0x7A) := by
    delta Char.isAlphanum Char.isAlpha Char.isUpper Char.isLower Char.isDigit
    simp [UInt32.le_iff_toNat_le, hchar]
    omega
  simp only [isPlain, Bool.or_eq_true, Bool.and_eq_true, decide_eq_true_eq, beq_iff_eq,
    UInt8.le_iff_toNat_le, UInt8.reduceToNat] at h
  rcases h with (((((hdigit | hupper) | hlower) | rfl) | rfl) | rfl) | rfl
  · exact .inl (halnum.mpr (.inl hdigit))
  · exact .inl (halnum.mpr (.inr (.inl hupper)))
  · exact .inl (halnum.mpr (.inr (.inr hlower)))
  all_goals exact .inr (by decide)

theorem isUpperHex_hexDigit : ∀ n : Fin 16, IsUpperHex (hexDigit n) := by decide

theorem IsUpperHex.isKept {c : Char} (h : IsUpperHex c) : IsKept c := by
  have hall : ("0123456789ABCDEF".toList.all fun d => decide (IsKept d)) = true := by decide
  exact of_decide_eq_true (List.all_eq_true.mp hall c h)

theorem IsFormText.escapeByte_append (b : UInt8) {cs : List Char} (h : IsFormText cs) :
    IsFormText (escapeByte b ++ cs) := by
  have hb : b.toNat < 256 := b.toNat_lt
  unfold escapeByte
  split
  · exact .kept (isKept_of_isPlain ‹_›) h
  · split
    · exact .kept (by decide) h
    · have hhigh := isUpperHex_hexDigit ⟨b.toNat / 16, by omega⟩
      have hlow := isUpperHex_hexDigit ⟨b.toNat % 16, by omega⟩
      exact .escape hhigh hlow h

theorem isFormText_escapeBytes (bs : List UInt8) : IsFormText (escapeBytes bs) := by
  induction bs with
  | nil => exact .nil
  | cons b bs ih =>
    rw [escapeBytes, List.flatMap_cons]
    exact ih.escapeByte_append b

/-- Every charset writes form text. -/
theorem isFormText_encode (e : Charset) (t : String) : IsFormText (encode e t).toList := by
  rw [encode, String.toList_ofList]
  exact isFormText_escapeBytes (e.encode t)

/-- No other character than those stands in form text. -/
theorem IsFormText.not_mem {c : Char} {cs : List Char} (h : IsFormText cs) (hkept : ¬IsKept c)
    (hpercent : c ≠ '%') : c ∉ cs := by
  have hne {d : Char} (hd : IsKept d) : c ≠ d := by
    rintro rfl
    exact hkept hd
  induction h with
  | nil => exact List.not_mem_nil
  | kept hd _ ih => simp [hne hd, ih]
  | escape ha hb _ ih => simp [hpercent, hne ha.isKept, hne hb.isKept, ih]

/-! ## Percent signs -/

def opensDigits : List UInt8 → Bool
  | a :: b :: _ => (hexValue? a).isSome && (hexValue? b).isSome
  | _ => false

theorem unescape_percent {rest : List UInt8} (h : opensDigits rest = false) :
    unescape (0x25 :: rest) = 0x25 :: unescape rest := by
  match rest with
  | [] => rfl
  | [_] => rfl
  | a :: b :: more =>
    rw [unescape]
    cases ha : hexValue? a with
    | none => rfl
    | some x =>
      cases hb : hexValue? b with
      | none => rfl
      | some y => simp [opensDigits, ha, hb] at h

theorem opensDigits_append_percent (bs rest : List UInt8) :
    opensDigits (bs ++ 0x25 :: rest) = opensDigits bs := by
  have hpercent : hexValue? 0x25 = none := by decide
  match bs with
  | [] => cases rest <;> simp [opensDigits, hpercent]
  | [a] => simp [opensDigits, hpercent]
  | a :: b :: more => rfl

/-- No escape goes over a percent sign, so reading begins anew there. -/
theorem unescape_append_percent (bs rest : List UInt8) :
    unescape (bs ++ 0x25 :: rest) = unescape bs ++ unescape (0x25 :: rest) := by
  -- A percent sign that begins no escape among these bytes begins none with more behind them.
  have hpass {more : List UInt8} (hno : opensDigits more = false)
      (ih : unescape (more ++ 0x25 :: rest) = unescape more ++ unescape (0x25 :: rest)) :
      unescape (0x25 :: more ++ 0x25 :: rest) =
        0x25 :: unescape more ++ unescape (0x25 :: rest) := by
    have hno' : opensDigits (more ++ 0x25 :: rest) = false := by
      rw [opensDigits_append_percent, hno]
    rw [List.cons_append, unescape_percent hno', ih, List.cons_append]
  fun_induction unescape bs with
  | case1 a b more x y hb ha ih =>
    rw [List.cons_append, List.cons_append, List.cons_append, unescape_escape ha hb, ih,
      List.cons_append]
  | case2 a b more hno ih =>
    refine hpass ?_ ih
    cases ha : hexValue? a with
    | none => simp [opensDigits, ha]
    | some x =>
      cases hb : hexValue? b with
      | none => simp [opensDigits, hb]
      | some y => exact absurd hb (hno x y ha)
  | case3 b more hno ih =>
    by_cases hb : b = 0x25
    · subst hb
      refine hpass ?_ ih
      match more with
      | [] => rfl
      | [_] => rfl
      | a :: c :: more => exact absurd rfl (hno a c more rfl)
    · rw [List.cons_append, unescape_cons hb, ih, List.cons_append]
  | case4 => rfl

/-- What is read before a percent sign that stands for an ASCII character, or for itself, does not
depend on what is behind it. -/
theorem decode_append_percent {t v : String} {rest read : List UInt8} {b : UInt8}
    (hb : b.toNat < 0x80) (hv : Text.Utf8.encode v = 0x25 :: rest)
    (h : unescapeBytes (0x25 :: rest) = b :: read) :
    decode .utf8 (t ++ v) =
      decode .utf8 t ++ String.ofList (Char.ofNat b.toNat :: decodeBytes read) := by
  have hpercent : plusToSpace 0x25 = 0x25 := by decide
  have hsplit : unescapeBytes (Text.Utf8.encode (t ++ v)) =
      unescapeBytes (Text.Utf8.encode t) ++ b :: read := by
    rw [← h, Text.Utf8.encode_append, hv]
    simp only [unescapeBytes, List.map_append, List.map_cons, hpercent, unescape_append_percent]
  have hread := Text.Utf8.decodeBytes_append_ascii (unescapeBytes (Text.Utf8.encode t)) hb read
  rw [decode, decode, hsplit]
  exact (congrArg String.ofList hread).trans String.ofList_append

/-- At an escaped ASCII character a text can be read in two parts, even if an escape or a character
is cut off before it. -/
theorem decode_append_escape (t u : String) {b : UInt8} (hb : b.toNat < 0x80)
    (hplain : isPlain b = false) (hspace : b ≠ 0x20) :
    decode .utf8 (t ++ String.ofList (escapeByte b) ++ u) =
      decode .utf8 t ++ String.singleton (Char.ofNat b.toNat) ++ decode .utf8 u := by
  obtain ⟨digits, hdigits⟩ : ∃ digits, encodeChars (escapeByte b) = 0x25 :: digits := by
    rw [escapeByte, if_neg (by simp [hplain]), if_neg hspace]
    exact ⟨_, rfl⟩
  have hwritten : Text.Utf8.encode (String.ofList (escapeByte b) ++ u) =
      0x25 :: (digits ++ Text.Utf8.encode u) := by
    rw [Text.Utf8.encode_append, Text.Utf8.encode, String.toList_ofList, hdigits, List.cons_append]
  have hread : unescapeBytes (0x25 :: (digits ++ Text.Utf8.encode u)) =
      b :: unescapeBytes (Text.Utf8.encode u) := by
    rw [← List.cons_append, ← hdigits, unescapeBytes_escapeByte]
  rw [String.append_assoc, decode_append_percent hb hwritten hread, String.ofList_cons,
    String.append_assoc]
  rfl

end ContentSource.FormText
