import ContentSource.FormText
import ContentSource.Proofs.Charset.Ascii
import ContentSource.Proofs.Text.Utf16

/-! # Reading form text back

Each byte is read back from its escape, whatever follows it. So a form text stands for what its
charset reads from the bytes that it writes, which is the text itself if the charset represents it
exactly. A text of plain characters is its own form text in every charset.
-/
namespace ContentSource.FormText

open Text (IsAscii)

variable {e : Charset} {b : UInt8} {n : Nat}

/-! ## One byte -/

theorem isPlain_bounds (h : isPlain b = true) : b.toNat < 0x80 ∧ b ≠ 0x25 ∧ b ≠ 0x2B := by
  simp only [isPlain, Bool.or_eq_true, Bool.and_eq_true, decide_eq_true_eq, beq_iff_eq,
    UInt8.le_iff_toNat_le, ← UInt8.toNat_inj, UInt8.reduceToNat] at h
  simp only [ne_eq, ← UInt8.toNat_inj, UInt8.reduceToNat]
  omega

theorem hexDigit_facts : ∀ n : Fin 16, (hexDigit n).toNat < 0x80 ∧
    hexValue? (UInt8.ofNat (hexDigit n).toNat) = some n.val ∧
    plusToSpace (UInt8.ofNat (hexDigit n).toNat) = UInt8.ofNat (hexDigit n).toNat := by
  decide

theorem isAscii_escapeByte (b : UInt8) : IsAscii (escapeByte b) := by
  have hb : b.toNat < 256 := b.toNat_lt
  unfold escapeByte
  split
  · rename_i hplain
    have hlt := (isPlain_bounds hplain).1
    have hchar : (Char.ofNat b.toNat).toNat = b.toNat := Text.toNat_char (by omega)
    simpa [IsAscii, hchar] using hlt
  · split
    · decide
    · have hhigh := (hexDigit_facts ⟨b.toNat / 16, by omega⟩).1
      have hlow := (hexDigit_facts ⟨b.toNat % 16, by omega⟩).1
      simp only [IsAscii, List.forall_mem_cons]
      exact ⟨by decide, hhigh, hlow, by simp⟩

theorem unescape_cons (h : b ≠ 0x25) (rest : List UInt8) :
    unescape (b :: rest) = b :: unescape rest := by
  rw [unescape]
  rintro a c more rfl
  exact absurd rfl h

theorem unescape_escape {a c : UInt8} {x y : Nat} (ha : hexValue? a = some x)
    (hc : hexValue? c = some y) (rest : List UInt8) :
    unescape (0x25 :: a :: c :: rest) = UInt8.ofNat (x * 16 + y) :: unescape rest := by
  rw [unescape]
  simp only [ha, hc]

theorem unescapeBytes_escapeByte (b : UInt8) (rest : List UInt8) :
    unescapeBytes (Text.Utf8.encodeChars (escapeByte b) ++ rest) = b :: unescapeBytes rest := by
  have hb : b.toNat < 256 := b.toNat_lt
  rw [Text.Utf8.encodeChars_ascii (isAscii_escapeByte b)]
  unfold escapeByte
  split
  · rename_i hplain
    obtain ⟨hlt, hpercent, hplus⟩ := isPlain_bounds hplain
    have hchar : UInt8.ofNat (Char.ofNat b.toNat).toNat = b := by
      rw [Text.toNat_char (by omega), UInt8.ofNat_toNat]
    simp only [unescapeBytes, List.map_cons, List.map_nil, List.cons_append, List.nil_append, hchar,
      plusToSpace, hplus, if_false]
    exact unescape_cons hpercent _
  · split
    · rename_i hspace
      have hplus : plusToSpace (UInt8.ofNat '+'.toNat) = 0x20 := by decide
      simp only [unescapeBytes, List.map_cons, List.map_nil, List.cons_append, List.nil_append,
        hplus, hspace]
      exact unescape_cons (by decide) _
    · obtain ⟨-, hhigh, hhigh'⟩ := hexDigit_facts ⟨b.toNat / 16, by omega⟩
      obtain ⟨-, hlow, hlow'⟩ := hexDigit_facts ⟨b.toNat % 16, by omega⟩
      have hpercent : plusToSpace (UInt8.ofNat '%'.toNat) = 0x25 := by decide
      simp only [unescapeBytes, List.map_cons, List.map_nil, List.cons_append, List.nil_append,
        hpercent, hhigh', hlow']
      rw [unescape_escape hhigh hlow, Nat.div_add_mod', UInt8.ofNat_toNat]

/-! ## Whole texts -/

theorem unescapeBytes_escapeBytes (bs : List UInt8) :
    unescapeBytes (Text.Utf8.encodeChars (escapeBytes bs)) = bs := by
  induction bs with
  | nil => rfl
  | cons b bs ih =>
    have hsplit : Text.Utf8.encodeChars (escapeBytes (b :: bs)) =
        Text.Utf8.encodeChars (escapeByte b) ++ Text.Utf8.encodeChars (escapeBytes bs) := by
      simp only [Text.Utf8.encodeChars, escapeBytes, List.flatMap_cons, List.flatMap_append]
    rw [hsplit, unescapeBytes_escapeByte, ih]

/-- A form text stands for what its charset reads from the bytes that it writes. -/
theorem decode_encode (e : Charset) (t : String) :
    decode e (encode e t) = e.decode (e.encode t) := by
  rw [decode, encode, Text.Utf8.encode, String.toList_ofList, unescapeBytes_escapeBytes]

theorem decode_encode_of_holds {t : String} (h : e.Holds t.toList) : decode e (encode e t) = t := by
  rw [decode_encode, Charset.decode, Charset.encode, h, String.ofList_toList]

theorem encode_append (t u : String) :
    encode .utf8 (t ++ u) = encode .utf8 t ++ encode .utf8 u := by
  have hbytes : Charset.utf8.encode (t ++ u) = Charset.utf8.encode t ++ Charset.utf8.encode u :=
    Text.Utf8.encode_append t u
  rw [encode, hbytes, escapeBytes, List.flatMap_append, String.ofList_append]
  rfl

/-! ## Plain characters -/

def IsPlainChar (c : Char) : Prop := c.toNat < 0x80 ∧ isPlain (UInt8.ofNat c.toNat) = true

instance (c : Char) : Decidable (IsPlainChar c) := inferInstanceAs (Decidable (_ ∧ _))

theorem IsPlainChar.not_excludes {c : Char} (h : IsPlainChar c) : ¬e.Excludes c := by
  rintro ⟨-, hcontrol⟩
  obtain ⟨-, hplain⟩ := h
  simp only [Charset.isJpControl, Bool.or_eq_true, beq_iff_eq] at hcontrol
  rcases hcontrol with (hc | hc) | hc <;> rw [hc] at hplain <;> exact absurd hplain (by decide)

theorem escapeBytes_of_plain {cs : List Char} (h : ∀ c ∈ cs, IsPlainChar c) :
    escapeBytes (Text.Utf8.encodeChars cs) = cs := by
  rw [Text.Utf8.encodeChars_ascii fun c hc => (h c hc).1, escapeBytes, List.flatMap_map]
  induction cs with
  | nil => rfl
  | cons c cs ih =>
    obtain ⟨⟨hlt, hplain⟩, hcs⟩ := List.forall_mem_cons.mp h
    have hchar : escapeByte (UInt8.ofNat c.toNat) = [c] := by
      rw [escapeByte, if_pos hplain, Text.Utf8.toNat_byte (by omega), Char.ofNat_toNat]
    rw [List.flatMap_cons, hchar, ih hcs, List.singleton_append]

theorem encode_of_plain (e : Charset) {t : String} (h : ∀ c ∈ t.toList, IsPlainChar c) :
    encode e t = t := by
  have hwritten : e.encodeChars t.toList = Text.Utf8.encodeChars t.toList :=
    Charset.encodeChars_ascii (fun c hc => (h c hc).1) fun c hc => (h c hc).not_excludes
  rw [encode, Charset.encode, hwritten, escapeBytes_of_plain h, String.ofList_toList]

theorem isPlainChar_of_isDigit {c : Char} (h : c.isDigit = true) : IsPlainChar c := by
  obtain ⟨hlow, hhigh⟩ : 0x30 ≤ c.toNat ∧ c.toNat ≤ 0x39 := by
    simpa [Char.isDigit, UInt32.le_iff_toNat_le] using h
  have hbyte : (UInt8.ofNat c.toNat).toNat = c.toNat := Text.Utf8.toNat_byte (by omega)
  refine ⟨by omega, ?_⟩
  simp [isPlain, UInt8.le_iff_toNat_le, hbyte, hlow, hhigh]

/-- The decimal digits of a number are their own form text. -/
theorem encode_toString (e : Charset) (n : Nat) : encode e (toString n) = toString n := by
  refine encode_of_plain e fun c hc => isPlainChar_of_isDigit ?_
  have hchars : (toString n).toList = Nat.toDigits 10 n := by simp
  rw [hchars] at hc
  exact Nat.isDigit_of_mem_toDigits (by decide) (by decide) hc

end ContentSource.FormText
