import ContentSource.Charset.Codec
import ContentSource.Proofs.Text.Utf8

/-! # ASCII in every charset

Every charset that text can be written in reads an ASCII byte as the ASCII character itself, so it
reads ASCII texts from their UTF-8 bytes. ISO-2022-JP makes three exceptions, for the characters
that its escape sequences are made with; it cannot write them either. All other ASCII characters are
written as that one byte in every charset. A charset with one byte to a character reads nothing else
from UTF-8.
-/
namespace ContentSource

def Text.IsAscii (cs : List Char) : Prop := ∀ c ∈ cs, c.toNat < 0x80

instance (cs : List Char) : Decidable (Text.IsAscii cs) :=
  List.decidableBAll _ cs

namespace Text.Utf8

theorem encodeChar_ascii {c : Char} (h : c.toNat < 0x80) :
    encodeChar c = [UInt8.ofNat c.toNat] := by
  simp only [encodeChar, h, if_true]

theorem encodeChars_ascii {cs : List Char} (h : IsAscii cs) :
    encodeChars cs = cs.map fun c => UInt8.ofNat c.toNat := by
  induction cs with
  | nil => rfl
  | cons c cs ih =>
    obtain ⟨hc, hcs⟩ := List.forall_mem_cons.mp h
    rw [encodeChars, List.flatMap_cons, encodeChar_ascii hc, List.map_cons]
    exact congrArg _ (ih hcs)

theorem one_le_length_encodeChar (c : Char) : 1 ≤ (encodeChar c).length := by
  unfold encodeChar
  dsimp only
  split
  · simp
  · split
    · simp
    · split <;> simp

theorem toNat_lt_of_length_encodeChar {c : Char} (h : (encodeChar c).length = 1) :
    c.toNat < 0x80 := by
  unfold encodeChar at h
  dsimp only at h
  split at h
  · assumption
  · split at h
    · simp at h
    · split at h <;> simp at h

theorem length_le_length_encodeChars (cs : List Char) : cs.length ≤ (encodeChars cs).length := by
  induction cs with
  | nil => simp
  | cons c cs ih =>
    have hc := one_le_length_encodeChar c
    rw [encodeChars, List.flatMap_cons, List.length_append, List.length_cons]
    rw [encodeChars] at ih
    omega

/-- Only ASCII takes one byte for each character. -/
theorem isAscii_of_length_encodeChars {cs : List Char} (h : (encodeChars cs).length = cs.length) :
    IsAscii cs := by
  induction cs with
  | nil => simp [IsAscii]
  | cons c cs ih =>
    have hc := one_le_length_encodeChar c
    have hcs := length_le_length_encodeChars cs
    rw [encodeChars, List.flatMap_cons, List.length_append, List.length_cons] at h
    rw [encodeChars] at hcs ih
    exact List.forall_mem_cons.mpr ⟨toNat_lt_of_length_encodeChar (by omega), ih (by omega)⟩

end Text.Utf8

namespace Charset

open Text (IsAscii)

theorem asciiChar_ofNat {c : Char} (h : c.toNat < 0x80) : asciiChar (UInt8.ofNat c.toNat) = c := by
  rw [asciiChar, Text.Utf8.toNat_byte (by omega), Char.ofNat_toNat]

theorem ofNat_lt {n : Nat} (h : n < 0x80) : UInt8.ofNat n < 0x80 := by
  rw [UInt8.lt_iff_toNat_lt, Text.Utf8.toNat_byte (by omega)]
  exact h

theorem map_encodeChars {f : UInt8 → Char} {cs : List Char} (h : IsAscii cs)
    (hf : ∀ c ∈ cs, f (UInt8.ofNat c.toNat) = c) : (Text.Utf8.encodeChars cs).map f = cs := by
  rw [Text.Utf8.encodeChars_ascii h, List.map_map]
  exact (List.map_congr_left hf).trans (List.map_id cs)

/-- A decoder reads ASCII if it has a state in which each character leaves it there. -/
theorem Decoder.runFrom_ascii {σ : Type} (d : Decoder σ) (s : σ) {cs : List Char} (h : IsAscii cs)
    (hstep : ∀ c ∈ cs, d.step s (UInt8.ofNat c.toNat) = ([c], s)) :
    d.runFrom s (Text.Utf8.encodeChars cs) = cs ++ d.finish s := by
  have hbytes : ∀ b ∈ Text.Utf8.encodeChars cs, d.step s b = ([asciiChar b], s) := by
    rw [Text.Utf8.encodeChars_ascii h]
    intro b hb
    obtain ⟨c, hc, rfl⟩ := List.mem_map.mp hb
    rw [asciiChar_ofNat (h c hc)]
    exact hstep c hc
  rw [d.runFrom_map s asciiChar _ hbytes, map_encodeChars h fun c hc => asciiChar_ofNat (h c hc)]

def Excludes (e : Charset) (c : Char) : Prop := e = iso2022Jp ∧ isJpControl c.toNat = true

/-- ASCII is read from its UTF-8 bytes in every charset that text can be written in. -/
theorem decodeBytes_ascii {e : Charset} {cs : List Char} (he : e.canEncode = true)
    (h : IsAscii cs) (hheld : ∀ c ∈ cs, ¬e.Excludes c) :
    e.decodeBytes (Text.Utf8.encodeChars cs) = cs := by
  have hlt : ∀ c ∈ cs, UInt8.ofNat c.toNat < 0x80 := fun c hc => ofNat_lt (h c hc)
  have hchar : ∀ c ∈ cs, asciiChar (UInt8.ofNat c.toNat) = c := fun c hc => asciiChar_ofNat (h c hc)
  have hrun {σ : Type} (d : Decoder σ) (hfinish : d.finish d.start = [])
      (hstep : ∀ c ∈ cs, d.step d.start (UInt8.ofNat c.toNat) = ([c], d.start)) :
      d.run (Text.Utf8.encodeChars cs) = cs := by
    rw [Decoder.run, d.runFrom_ascii d.start h hstep, hfinish, List.append_nil]
  cases e with
  | utf8 => exact Text.Utf8.decodeBytes_encodeChars cs
  | singleByte t =>
    refine map_encodeChars h fun c hc => ?_
    rw [SingleByte.char, if_pos (hlt c hc), hchar c hc]
  | userDefined =>
    refine map_encodeChars h fun c hc => ?_
    rw [userDefinedChar, if_pos (hlt c hc), hchar c hc]
  | gbk | gb18030 =>
    refine hrun gbDecoder rfl fun c hc => ?_
    simp only [gbDecoder, gbStep, gbGround, hlt c hc, if_true, hchar c hc]
  | big5 =>
    refine hrun big5Decoder rfl fun c hc => ?_
    simp only [big5Decoder, big5Step, hlt c hc, if_true, hchar c hc]
  | eucJp =>
    refine hrun eucJpDecoder rfl fun c hc => ?_
    simp only [eucJpDecoder, eucJpStep, hlt c hc, if_true, hchar c hc]
  | shiftJis =>
    refine hrun shiftJisDecoder rfl fun c hc => ?_
    have hle : UInt8.ofNat c.toNat ≤ 0x80 := UInt8.le_of_lt (hlt c hc)
    simp only [shiftJisDecoder, shiftJisStep, hle, if_true, hchar c hc]
  | eucKr =>
    refine hrun eucKrDecoder rfl fun c hc => ?_
    simp only [eucKrDecoder, eucKrStep, hlt c hc, if_true, hchar c hc]
  | iso2022Jp =>
    refine hrun iso2022JpDecoder rfl fun c hc => ?_
    have hnat : (UInt8.ofNat c.toNat).toNat = c.toNat :=
      Text.Utf8.toNat_byte (by have := h c hc; omega)
    have hcontrol : isJpControl (UInt8.ofNat c.toNat).toNat = false := by
      simpa [Excludes, hnat] using hheld c hc
    have hescape : UInt8.ofNat c.toNat ≠ 0x1B := by
      intro hb
      rw [hb] at hcontrol
      cases hcontrol
    simp only [iso2022JpDecoder, iso2022JpStep, iso2022JpPlain, iso2022JpText, hescape, if_false,
      hlt c hc, hcontrol, decide_true, Bool.not_false, Bool.and_true, if_true, hchar c hc]
  | replacement | utf16be | utf16le => cases he

/-! ## What a charset can hold -/

/-- A charset represents a text exactly: it reads the text back as it writes it. -/
def Holds (e : Charset) (cs : List Char) : Prop := e.decodeBytes (e.encodeChars cs) = cs

instance (e : Charset) (cs : List Char) : Decidable (e.Holds cs) :=
  inferInstanceAs (Decidable (_ = _))

theorem holds_of_eq_utf8 {e : Charset} {cs : List Char} (h : e = utf8) : e.Holds cs := by
  subst h
  exact Text.Utf8.decodeBytes_encodeChars cs

def jpWritten (c : Char) : List Char :=
  if isJpControl c.toNat then "&#65533;".toList else [c]

theorem iso2022JpChars_ascii {cs : List Char} (h : IsAscii cs) :
    iso2022JpChars .ascii cs = Text.Utf8.encodeChars (cs.flatMap jpWritten) := by
  induction cs with
  | nil => rfl
  | cons c cs ih =>
    obtain ⟨hc, hcs⟩ := List.forall_mem_cons.mp h
    have hchar : iso2022JpChar .ascii c = (Text.Utf8.encodeChars (jpWritten c), .ascii) := by
      unfold iso2022JpChar jpWritten
      by_cases hcontrol : isJpControl c.toNat = true
      · simp only [hcontrol, if_true]
        decide
      · simp only [hcontrol, Bool.false_eq_true, if_false, hc, if_true, Text.Utf8.encodeChars,
          List.flatMap_singleton, Text.Utf8.encodeChar_ascii hc]
        rfl
    rw [iso2022JpChars, hchar, ih hcs, Text.Utf8.encodeChars, Text.Utf8.encodeChars,
      Text.Utf8.encodeChars, List.flatMap_cons, List.flatMap_append]

theorem jpWritten_held {cs : List Char} {d : Char} (h : IsAscii cs)
    (hd : d ∈ cs.flatMap jpWritten) : d.toNat < 0x80 ∧ isJpControl d.toNat = false := by
  obtain ⟨c, hc, hd⟩ := List.mem_flatMap.mp hd
  have hreference : ("&#65533;".toList.all fun x =>
      decide (x.toNat < 0x80) && !isJpControl x.toNat) = true := by decide
  unfold jpWritten at hd
  split at hd
  · simpa using List.all_eq_true.mp hreference d hd
  · rename_i hcontrol
    obtain rfl := List.mem_singleton.mp hd
    exact ⟨h d hc, by simpa using hcontrol⟩

/-- An ASCII text that a charset represents exactly has none of the characters it excludes. -/
theorem not_excludes_of_holds {e : Charset} {cs : List Char} (h : IsAscii cs)
    (hholds : e.Holds cs) : ∀ c ∈ cs, ¬e.Excludes c := by
  rintro c hc ⟨rfl, hcontrol⟩
  have hwritten : iso2022Jp.decodeBytes (Text.Utf8.encodeChars (cs.flatMap jpWritten)) =
      cs.flatMap jpWritten := by
    refine decodeBytes_ascii rfl (fun d hd => (jpWritten_held h hd).1) fun d hd hex => ?_
    exact absurd hex.2 (by simp [(jpWritten_held h hd).2])
  have hsame : cs.flatMap jpWritten = cs := by
    rw [← hwritten, ← iso2022JpChars_ascii h]
    exact hholds
  rw [← hsame] at hc
  rw [(jpWritten_held h hc).2] at hcontrol
  cases hcontrol

/-! ## Writing ASCII -/

/-- Every charset but ISO-2022-JP writes each character by bytes of its own, and ASCII as itself. -/
theorem exists_bytes {e : Charset} (he : e ≠ iso2022Jp) :
    ∃ bytes? : Char → Option (List UInt8), (∀ cs, e.encodeChars cs = encodeEach bytes? cs) ∧
      ∀ c : Char, c.toNat < 0x80 → bytes? c = some [UInt8.ofNat c.toNat] := by
  cases e with
  | utf8 | replacement | utf16be | utf16le =>
    refine ⟨fun c => some (Text.Utf8.encodeChar c), fun cs => rfl, fun c hc => ?_⟩
    exact congrArg some (Text.Utf8.encodeChar_ascii hc)
  | singleByte t =>
    exact ⟨t.bytes?, fun cs => rfl, fun c hc => by simp only [SingleByte.bytes?, hc, if_true]⟩
  | gbk => exact ⟨gbkBytes?, fun cs => rfl, fun c hc => by simp only [gbkBytes?, hc, if_true]⟩
  | gb18030 =>
    exact ⟨gb18030Bytes?, fun cs => rfl, fun c hc => by simp only [gb18030Bytes?, hc, if_true]⟩
  | big5 => exact ⟨big5Bytes?, fun cs => rfl, fun c hc => by simp only [big5Bytes?, hc, if_true]⟩
  | eucJp => exact ⟨eucJpBytes?, fun cs => rfl, fun c hc => by simp only [eucJpBytes?, hc, if_true]⟩
  | shiftJis =>
    refine ⟨shiftJisBytes?, fun cs => rfl, fun c hc => ?_⟩
    simp only [shiftJisBytes?, Nat.le_of_lt hc, if_true]
  | eucKr => exact ⟨eucKrBytes?, fun cs => rfl, fun c hc => by simp only [eucKrBytes?, hc, if_true]⟩
  | userDefined =>
    refine ⟨userDefinedBytes?, fun cs => rfl, fun c hc => ?_⟩
    simp only [userDefinedBytes?, hc, if_true]
  | iso2022Jp => exact absurd rfl he

/-- ASCII is written as UTF-8 writes it, less what a charset cannot hold. -/
theorem encodeChars_ascii {e : Charset} {cs : List Char} (h : IsAscii cs)
    (hheld : ∀ c ∈ cs, ¬e.Excludes c) : e.encodeChars cs = Text.Utf8.encodeChars cs := by
  by_cases he : e = iso2022Jp
  · subst he
    have hwritten : ∀ c ∈ cs, jpWritten c = [c] := fun c hc =>
      if_neg fun hcontrol => hheld c hc ⟨rfl, hcontrol⟩
    have hsame : cs.flatMap jpWritten = cs := by
      rw [List.flatMap_def, List.map_congr_left hwritten, ← List.flatMap_def,
        List.flatMap_singleton']
    exact (iso2022JpChars_ascii h).trans (congrArg Text.Utf8.encodeChars hsame)
  · obtain ⟨bytes?, hall, hbytes⟩ := exists_bytes he
    have hchar : ∀ c ∈ cs, (bytes? c).getD (reference c) = Text.Utf8.encodeChar c := by
      intro c hc
      rw [hbytes c (h c hc), Text.Utf8.encodeChar_ascii (h c hc), Option.getD_some]
    rw [hall]
    exact congrArg List.flatten (List.map_congr_left hchar)

/-- A charset that text can be written in represents ASCII exactly, less what it cannot hold. -/
theorem holds_ascii {e : Charset} {cs : List Char} (he : e.canEncode = true) (h : IsAscii cs)
    (hheld : ∀ c ∈ cs, ¬e.Excludes c) : e.Holds cs := by
  rw [Holds, encodeChars_ascii h hheld]
  exact decodeBytes_ascii he h hheld

/-! ## Percent signs -/

theorem count_percent_le_jp (set : JpSet) (cs : List Char) :
    cs.count '%' ≤ (iso2022JpChars set cs).count 0x25 := by
  have hpercent : ∀ set, (iso2022JpChar set '%').1.count 0x25 = 1 := by
    intro set
    cases set <;> decide
  induction cs generalizing set with
  | nil => simp
  | cons c cs ih =>
    have hrest := ih (iso2022JpChar set c).2
    rw [iso2022JpChars, List.count_append, List.count_cons]
    by_cases hc : c = '%'
    · subst hc
      rw [hpercent, if_pos (by decide)]
      omega
    · simp only [beq_iff_eq, hc, if_false]
      omega

theorem count_percent_le_each {bytes? : Char → Option (List UInt8)} (h : bytes? '%' = some [0x25])
    (cs : List Char) : cs.count '%' ≤ (encodeEach bytes? cs).count 0x25 := by
  unfold encodeEach
  induction cs with
  | nil => simp
  | cons c cs ih =>
    rw [List.flatMap_cons, List.count_append, List.count_cons]
    by_cases hc : c = '%'
    · subst hc
      rw [h, Option.getD_some, List.count_singleton_self, if_pos (by decide)]
      omega
    · simp only [beq_iff_eq, hc, if_false]
      omega

/-- Every charset writes a percent sign for a percent sign. -/
theorem count_percent_le (e : Charset) (cs : List Char) :
    cs.count '%' ≤ (e.encodeChars cs).count 0x25 := by
  by_cases he : e = iso2022Jp
  · subst he
    exact count_percent_le_jp .ascii cs
  · obtain ⟨bytes?, hall, hbytes⟩ := exists_bytes he
    rw [hall]
    exact count_percent_le_each (hbytes '%' (by decide)) cs

/-! ## Charsets of one byte -/

/-- Each byte of a charset stands for one character. -/
def OneByte (e : Charset) : Prop := e = userDefined ∨ ∃ t, e = singleByte t

/-- A charset of one byte to a character reads only ASCII texts from their UTF-8 bytes. -/
theorem isAscii_of_decodeBytes {e : Charset} {cs : List Char} (he : e.OneByte)
    (h : e.decodeBytes (Text.Utf8.encodeChars cs) = cs) : IsAscii cs := by
  refine Text.Utf8.isAscii_of_length_encodeChars ?_
  have hlength : (e.decodeBytes (Text.Utf8.encodeChars cs)).length =
      (Text.Utf8.encodeChars cs).length := by
    rcases he with rfl | ⟨t, rfl⟩ <;> exact List.length_map _
  rw [← hlength, h]

end Charset

end ContentSource
