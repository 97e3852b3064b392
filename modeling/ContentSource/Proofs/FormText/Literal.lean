import ContentSource.Proofs.FormText.Escapes

/-! # Form text that stands for itself

Only escapes and plus signs stand for something else than themselves. So a text without them is its
own reading in UTF-8, and a percent sign that begins no escape is read as it is wherever it stands.
-/
namespace ContentSource.FormText

open Text.Utf8 (encodeChar encodeChars decodeBytes)

def IsHex (c : Char) : Prop := c ∈ "0123456789ABCDEFabcdef".toList

instance (c : Char) : Decidable (IsHex c) := inferInstanceAs (Decidable (_ ∈ _))

def OpensEscape : List Char → Prop
  | c :: a :: b :: _ => c = '%' ∧ IsHex a ∧ IsHex b
  | _ => False

instance : DecidablePred OpensEscape
  | _ :: _ :: _ :: _ => inferInstanceAs (Decidable (_ ∧ _))
  | [_, _] | [_] | [] => inferInstanceAs (Decidable False)

/-- Nothing in a text stands for something else: no plus sign, and no escape from any place on. -/
def IsLiteral (cs : List Char) : Prop :=
  '+' ∉ cs ∧ ∀ n < cs.length, ¬OpensEscape (cs.drop n)

instance (cs : List Char) : Decidable (IsLiteral cs) := inferInstanceAs (Decidable (_ ∧ _))

variable {c : Char} {cs : List Char} {b : UInt8} {bs rest : List UInt8}

theorem isLiteral_cons :
    IsLiteral (c :: cs) ↔ c ≠ '+' ∧ ¬OpensEscape (c :: cs) ∧ IsLiteral cs := by
  simp only [IsLiteral, List.length_cons, Nat.forall_lt_succ_left, List.drop_zero,
    List.drop_succ_cons, List.mem_cons, not_or, ne_eq, eq_comm (a := '+')]
  grind

/-! ## Digits -/

theorem isHex_of_hexValue? : ∀ n : Fin 256, (hexValue? (UInt8.ofNat n)).isSome = true →
    IsHex (Char.ofNat n) := by
  decide +kernel

theorem lt_of_hexValue? (h : (hexValue? b).isSome = true) : b.toNat < 0x80 := by
  unfold hexValue? at h
  simp only [UInt8.le_iff_toNat_le, UInt8.reduceToNat] at h
  split at h
  · omega
  split at h
  · omega
  split at h
  · omega
  · cases h

theorem plusToSpace_of_hexValue? (h : (hexValue? (plusToSpace b)).isSome = true) :
    plusToSpace b = b := by
  unfold plusToSpace at h ⊢
  split at h
  · cases h
  · exact if_neg ‹_›

/-- A text whose first byte is a digit begins with that digit. -/
theorem exists_of_digit (hcs : encodeChars cs = b :: bs)
    (hb : (hexValue? (plusToSpace b)).isSome = true) :
    ∃ c cs', cs = c :: cs' ∧ IsHex c ∧ bs = encodeChars cs' := by
  rw [plusToSpace_of_hexValue? hb] at hb
  have hlt := lt_of_hexValue? hb
  cases cs with
  | nil => cases hcs
  | cons c cs' =>
    obtain ⟨x, xs, hc⟩ := List.exists_cons_of_length_pos (Text.Utf8.one_le_length_encodeChar c)
    rw [encodeChars, List.flatMap_cons, hc, List.cons_append] at hcs
    obtain ⟨rfl, rfl⟩ := List.cons.inj hcs
    have hchar : c.toNat = x.toNat :=
      Text.Utf8.toNat_of_mem_encodeChar (hc ▸ List.mem_cons_self) hlt
    have hhex : IsHex (Char.ofNat x.toNat) :=
      isHex_of_hexValue? ⟨x.toNat, x.toNat_lt⟩ (by simpa using hb)
    rw [← hchar, Char.ofNat_toNat] at hhex
    rw [Text.Utf8.encodeChar_ascii (by omega)] at hc
    obtain ⟨-, rfl⟩ := List.cons.inj hc
    exact ⟨c, cs', rfl, hhex, rfl⟩

/-- Two digits in front of the bytes of a text are two digits in front of the text. -/
theorem opensEscape_of_opensDigits
    (h : opensDigits ((encodeChars cs).map plusToSpace) = true) : OpensEscape ('%' :: cs) := by
  match hcs : encodeChars cs with
  | [] | [_] => simp [hcs, opensDigits] at h
  | x :: y :: more =>
    simp only [hcs, List.map_cons, opensDigits, Bool.and_eq_true] at h
    obtain ⟨a, cs, rfl, ha, hcs⟩ := exists_of_digit hcs h.1
    obtain ⟨b, cs, rfl, hb, -⟩ := exists_of_digit hcs.symm h.2
    exact ⟨rfl, ha, hb⟩

theorem unescapeBytes_percent (h : ¬OpensEscape ('%' :: cs)) :
    unescapeBytes (0x25 :: encodeChars cs) = 0x25 :: unescapeBytes (encodeChars cs) := by
  have hpercent : plusToSpace 0x25 = 0x25 := by decide
  have hdigits : opensDigits ((encodeChars cs).map plusToSpace) = false :=
    Bool.eq_false_iff.mpr fun hdigits => h (opensEscape_of_opensDigits hdigits)
  rw [unescapeBytes, List.map_cons, hpercent, unescape_percent hdigits, unescapeBytes]

/-! ## Texts -/

theorem unescapeBytes_append_of_ne (h : ∀ b ∈ bs, b ≠ 0x25 ∧ b ≠ 0x2B) :
    unescapeBytes (bs ++ rest) = bs ++ unescapeBytes rest := by
  induction bs with
  | nil => rfl
  | cons b bs ih =>
    obtain ⟨⟨hpercent, hplus⟩, hbs⟩ := List.forall_mem_cons.mp h
    have hb : plusToSpace b = b := if_neg hplus
    rw [List.cons_append, unescapeBytes, List.map_cons, hb, unescape_cons hpercent]
    exact congrArg (b :: ·) (ih hbs)

theorem ne_of_mem_encodeChar {d : Char} (hd : d.toNat < 0x80) (hne : c ≠ d)
    (hb : b ∈ encodeChar c) : b ≠ UInt8.ofNat d.toNat := by
  rintro rfl
  have hbyte : (UInt8.ofNat d.toNat).toNat = d.toNat := Text.Utf8.toNat_byte (by omega)
  have hchar := Text.Utf8.toNat_of_mem_encodeChar hb (by omega)
  exact hne (Char.toNat_inj.mp (hchar.trans hbyte))

theorem unescapeBytes_of_isLiteral (h : IsLiteral cs) :
    unescapeBytes (encodeChars cs) = encodeChars cs := by
  induction cs with
  | nil => rfl
  | cons c cs ih =>
    obtain ⟨hplus, hescape, hcs⟩ := isLiteral_cons.mp h
    have hsplit : encodeChars (c :: cs) = encodeChar c ++ encodeChars cs := List.flatMap_cons
    rw [hsplit]
    by_cases hc : c = '%'
    · subst hc
      have hpercent : encodeChar '%' = [0x25] := by decide
      rw [hpercent, List.singleton_append, unescapeBytes_percent hescape, ih hcs]
    · have hbytes (b : UInt8) (hb : b ∈ encodeChar c) : b ≠ 0x25 ∧ b ≠ 0x2B :=
        ⟨ne_of_mem_encodeChar (d := '%') (by decide) hc hb,
          ne_of_mem_encodeChar (d := '+') (by decide) hplus hb⟩
      rw [unescapeBytes_append_of_ne hbytes, ih hcs]

/-- A text in which nothing stands for something else is its own reading. -/
theorem decode_of_isLiteral {t : String} (h : IsLiteral t.toList) : decode .utf8 t = t := by
  have hbytes : unescapeBytes (Text.Utf8.encode t) = Text.Utf8.encode t :=
    unescapeBytes_of_isLiteral h
  rw [decode, hbytes]
  exact Text.Utf8.decode_encode t

/-- A percent sign that begins no escape stays, and the texts around it are read for themselves. -/
theorem decode_percent (t : String) {u : String} (h : ¬OpensEscape ('%' :: u.toList)) :
    decode .utf8 (t ++ "%" ++ u) = decode .utf8 t ++ "%" ++ decode .utf8 u := by
  have hwritten : Text.Utf8.encode ("%" ++ u) = 0x25 :: Text.Utf8.encode u :=
    Text.Utf8.encode_append "%" u
  have hread := decode_append_percent (t := t) (by decide) hwritten (unescapeBytes_percent h)
  rw [String.append_assoc, hread, String.ofList_cons, String.append_assoc]
  rfl

/-- Every charset writes form text, and reads it as it reads the bytes of the text. UTF-8 reads
every text back, and any form text in which nothing stands for something else as it is. -/
theorem form_text_returns :
    (∀ e t, decode e (encode e t) = e.decode (e.encode t)) ∧
    (∀ t, Charset.utf8.decode (Charset.utf8.encode t) = t) ∧
    (∀ e t, IsFormText (encode e t).toList) ∧
    (∀ t, IsLiteral t.toList → decode .utf8 t = t) ∧
    ∀ t u, ¬OpensEscape ('%' :: u.toList) →
      decode .utf8 (t ++ "%" ++ u) = decode .utf8 t ++ "%" ++ decode .utf8 u :=
  ⟨decode_encode, Text.Utf8.decode_encode, isFormText_encode, fun _ => decode_of_isLiteral,
    fun t _ => decode_percent t⟩

/-- Percent signs stay before a space, before a digit and another letter, and at the end. -/
theorem bare_percent_stays :
    decode .utf8 "100% of %z0, %4" = "100% of %z0, %4" ∧
    decode .utf8 ("a+b" ++ "%" ++ "%41") = "a b%A" := by
  obtain ⟨-, -, -, hliteral, hpercent⟩ := form_text_returns
  refine ⟨hliteral _ (by decide), (hpercent "a+b" "%41" (by decide)).trans (by decide +kernel)⟩

end ContentSource.FormText
