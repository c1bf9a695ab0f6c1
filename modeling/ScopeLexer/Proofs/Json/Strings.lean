import ScopeLexer.Json.Token
import ScopeLexer.Proofs.Json.Grammar
import ScopeLexer.Proofs.Text.Encoding

/-! Strings as they are read. A string that is written as it may be ends at its closing quote, is
read as the text that it spells, and can be passed over. -/

namespace ScopeLexer.Json

open Text

/-! ### Characters -/

theorem utf8_ascii {c : Char} (h : c.toNat < 0x80) (cs : List Char) :
    utf8 (c :: cs) = UInt8.ofNat c.toNat :: utf8 cs := by
  rw [utf8_cons, encoded_of_lt h]
  rfl

theorem utf8_byte {c : Char} {b : UInt8} (h : c.toNat < 0x80) (hb : UInt8.ofNat c.toNat = b)
    (cs : List Char) : utf8 (c :: cs) = b :: utf8 cs := by
  rw [utf8_ascii h, hb]

theorem toNat_ofNat_ascii {c : Char} (h : c.toNat < 0x80) : (UInt8.ofNat c.toNat).toNat = c.toNat :=
  UInt8.toNat_ofNat_of_lt' (by exact Nat.lt_trans h (by decide))

/-- A character with the number of an ASCII one is that one. -/
theorem eq_of_ofNat_eq {c d : Char} (hc : c.toNat < 0x80) (hd : d.toNat < 0x80)
    (h : UInt8.ofNat c.toNat = UInt8.ofNat d.toNat) : c = d := by
  have := congrArg UInt8.toNat h
  rw [toNat_ofNat_ascii hc, toNat_ofNat_ascii hd] at this
  exact Char.toNat_inj.1 this

/-- A byte of a string that is neither a quote, a backslash nor a control character. -/
def IsPlainByte (b : UInt8) : Prop := ¬b < 0x20 ∧ b ≠ 0x22 ∧ b ≠ 0x5C

theorem IsPlain.bytes {c : Char} (h : IsPlain c) :
    ∀ b ∈ String.utf8EncodeChar c, IsPlainByte b := by
  obtain ⟨hlow, hquote, hslash⟩ := h
  rcases encoded_cases c with ⟨hc, he⟩ | ⟨-, hb⟩
  · rw [he]
    intro b hb
    obtain rfl := List.mem_singleton.1 hb
    refine ⟨?_, fun h => hquote (eq_of_ofNat_eq hc (by decide) h),
      fun h => hslash (eq_of_ofNat_eq hc (by decide) h)⟩
    rw [UInt8.lt_iff_toNat_lt, toNat_ofNat_ascii hc]
    exact Nat.not_lt_of_le hlow
  · intro b hmem
    have hge := UInt8.le_iff_toNat_le.1 (hb b hmem)
    refine ⟨fun h => ?_, fun h => ?_, fun h => ?_⟩
    · have := UInt8.lt_iff_toNat_lt.1 h
      simp at hge this
      omega
    · subst h
      simp at hge
    · subst h
      simp at hge

/-! ### Codes -/

theorem IsHex.isPlain {v : Nat} {c : Char} (h : IsHex v c) : c.toNat < 0x80 ∧ IsPlain c := by
  have hdigits : ∀ v < 16, ((Nat.digitChar v).toNat < 0x80 ∧ IsPlain (Nat.digitChar v)) ∧
      (Nat.digitChar v).toUpper.toNat < 0x80 ∧ IsPlain (Nat.digitChar v).toUpper := by decide
  obtain ⟨hv, rfl | rfl⟩ := h
  · exact (hdigits v hv).1
  · exact (hdigits v hv).2

theorem IsHex.value {v : Nat} {c : Char} (h : IsHex v c) :
    hexValue? (UInt8.ofNat c.toNat) = some v := by
  have hdigits : ∀ v < 16, hexValue? (UInt8.ofNat (Nat.digitChar v).toNat) = some v ∧
      hexValue? (UInt8.ofNat (Nat.digitChar v).toUpper.toNat) = some v := by decide
  obtain ⟨hv, rfl | rfl⟩ := h
  · exact (hdigits v hv).1
  · exact (hdigits v hv).2

variable {n : Nat} {c e : Char} {ds cs w : List Char}

theorem HexFour.plain (h : HexFour n ds) : ∀ d ∈ ds, IsPlain d := by
  cases h with
  | digits ha hb hc hd =>
    intro d hd'
    simp only [List.mem_cons, List.not_mem_nil, or_false] at hd'
    rcases hd' with rfl | rfl | rfl | rfl
    · exact ha.isPlain.2
    · exact hb.isPlain.2
    · exact hc.isPlain.2
    · exact hd.isPlain.2

theorem HexFour.hexFour (h : HexFour n ds) (beyond : Nat) (s : Bytes) :
    hexFour beyond (utf8 ds ++ s) = .ok n := by
  cases h with
  | digits ha hb hc hd =>
    rw [utf8_ascii ha.isPlain.1, utf8_ascii hb.isPlain.1, utf8_ascii hc.isPlain.1,
      utf8_ascii hd.isPlain.1]
    simp only [utf8_nil, List.cons_append, List.nil_append, Json.hexFour, ha.value, hb.value,
      hc.value, hd.value]

theorem HexFour.drop (h : HexFour n ds) (s : Bytes) : (utf8 ds ++ s).drop 4 = s := by
  cases h with
  | digits ha hb hc hd =>
    rw [utf8_ascii ha.isPlain.1, utf8_ascii hb.isPlain.1, utf8_ascii hc.isPlain.1,
      utf8_ascii hd.isPlain.1]
    rfl

theorem utf8_letter (e : Char) (he : e.toNat < 0x80) (w : List Char) :
    utf8 ('\\' :: e :: w) = 0x5C :: UInt8.ofNat e.toNat :: utf8 w := by
  rw [utf8_byte (b := 0x5C) (by decide) rfl, utf8_ascii he]

theorem utf8_code (ds w : List Char) :
    utf8 ('\\' :: 'u' :: (ds ++ w)) = 0x5C :: 0x75 :: (utf8 ds ++ utf8 w) := by
  rw [utf8_byte (b := 0x5C) (by decide) rfl, utf8_byte (b := 0x75) (by decide) rfl, utf8_append]

/-- The letter of an escape is in ASCII, and none that begins a code. -/
theorem escape_ascii (h : (e, c) ∈ escapes) :
    e.toNat < 0x80 ∧ UInt8.ofNat e.toNat ≠ 0x75 ∧ c.toNat < 0x80 ∧
      controlByte? (UInt8.ofNat e.toNat) = some (UInt8.ofNat c.toNat) := by
  have hall : ∀ p ∈ escapes, p.1.toNat < 0x80 ∧ UInt8.ofNat p.1.toNat ≠ 0x75 ∧ p.2.toNat < 0x80 ∧
      controlByte? (UInt8.ofNat p.1.toNat) = some (UInt8.ofNat p.2.toNat) := by decide
  exact hall _ h

/-! ### The end of a string -/

theorem untilQuote_plain {bs : Bytes} (h : ∀ b ∈ bs, IsPlainByte b) (s : Bytes) :
    untilQuote (bs ++ s) = (bs ++ (untilQuote s).1, (untilQuote s).2) := by
  induction bs with
  | nil => rfl
  | cons b bs ih =>
    obtain ⟨-, hquote, hslash⟩ := h b List.mem_cons_self
    rw [List.cons_append, untilQuote, ih fun b hb => h b (List.mem_cons_of_mem _ hb)]
    · rfl
    · exact hquote
    · exact fun _ _ h => absurd h hslash

theorem plain_bytes (h : ∀ c ∈ cs, IsPlain c) : ∀ b ∈ utf8 cs, IsPlainByte b := by
  intro b hb
  obtain ⟨c, hc, hb⟩ := List.mem_flatMap.1 hb
  exact (h c hc).bytes b hb

/-- A string ends at the quote behind it. -/
theorem IsString.untilQuote (h : IsString w) (s : Bytes) :
    untilQuote (utf8 w ++ 0x22 :: s) = (utf8 w, some s) := by
  induction h with
  | nil => rfl
  | plain hc _ ih =>
    rw [utf8_cons, List.append_assoc, untilQuote_plain hc.bytes, ih]
  | letter hc _ ih =>
    rw [utf8_letter _ (escape_ascii hc).1, List.cons_append, List.cons_append, Json.untilQuote, ih]
  | code hd _ ih =>
    rw [utf8_code, List.cons_append, List.cons_append, Json.untilQuote, List.append_assoc,
      untilQuote_plain (plain_bytes hd.plain), ih]

/-! ### Passing over -/

theorem skimBytes_plain {bs : Bytes} (h : ∀ b ∈ bs, IsPlainByte b) (beyond : Nat) (s : Bytes) :
    skimBytes beyond (bs ++ s) = skimBytes beyond s := by
  induction bs with
  | nil => rfl
  | cons b bs ih =>
    obtain ⟨hlow, -, hslash⟩ := h b List.mem_cons_self
    rw [List.cons_append, skimBytes, if_neg hlow, ih fun b hb => h b (List.mem_cons_of_mem _ hb)]
    exact hslash

theorem IsString.skimBytes (h : IsString w) {beyond : Nat} (hb : 0 < beyond) :
    skimBytes beyond (utf8 w) = .ok () := by
  induction h with
  | nil => rw [utf8_nil, Json.skimBytes, if_neg (Nat.ne_of_gt hb)]
  | plain hc _ ih => rw [utf8_cons, skimBytes_plain hc.bytes, ih]
  | letter hc _ ih =>
    obtain ⟨he, hu, -, hcontrol⟩ := escape_ascii hc
    rw [utf8_letter _ he, Json.skimBytes]
    · simp only [hcontrol, ih]
    · exact hu
  | code hd _ ih =>
    rw [utf8_code, Json.skimBytes]
    simp only [hd.hexFour, hd.drop, ih]

/-! ### Reading -/

theorem spelledBytes_plain {bs : Bytes} (h : ∀ b ∈ bs, IsPlainByte b) (beyond : Nat) (s : Bytes) :
    spelledBytes beyond (bs ++ s) = (spelledBytes beyond s).map (bs ++ ·) := by
  induction bs with
  | nil =>
    rw [List.nil_append]
    cases spelledBytes beyond s <;> rfl
  | cons b bs ih =>
    obtain ⟨hlow, -, hslash⟩ := h b List.mem_cons_self
    rw [List.cons_append, spelledBytes, if_neg hlow, ih fun b hb => h b (List.mem_cons_of_mem _ hb)]
    · cases spelledBytes beyond s <;> rfl
    · exact hslash

/-- The code of a character. -/
theorem unicodeEscape_code (h : HexFour c.toNat ds) (beyond : Nat) (s : Bytes) :
    unicodeEscape beyond (utf8 ds ++ s) = .ok (c, 4) := by
  have hvalid : c.toNat < 0xD800 ∨ 0xDFFF < c.toNat ∧ c.toNat < 0x110000 := c.valid
  have htrailing : isTrailing c.toNat = false := by simp [isTrailing]; omega
  have hleading : isLeading c.toNat = false := by simp [isLeading]; omega
  simp [unicodeEscape, h.hexFour, htrailing, hleading, bind, Except.bind, pure, Except.pure,
    Char.ofNat_toNat]

/-- The two codes of a character beyond four digits. -/
theorem unicodeEscape_pair {es : List Char} (hc : 0x10000 ≤ c.toNat)
    (hd : HexFour (0xD800 + (c.toNat - 0x10000) / 0x400) ds)
    (he : HexFour (0xDC00 + (c.toNat - 0x10000) % 0x400) es) (beyond : Nat) (s : Bytes) :
    unicodeEscape beyond (utf8 ds ++ 0x5C :: 0x75 :: (utf8 es ++ s)) = .ok (c, 10) := by
  have hvalid : c.toNat < 0xD800 ∨ 0xDFFF < c.toNat ∧ c.toNat < 0x110000 := c.valid
  have hhalf : trailingHalf beyond (0x5C :: 0x75 :: (utf8 es ++ s)) =
      .ok (0xDC00 + (c.toNat - 0x10000) % 0x400) := by
    have htrailing : isTrailing (0xDC00 + (c.toNat - 0x10000) % 0x400) := by
      simp [isTrailing]; omega
    simp [trailingHalf, he.hexFour, htrailing, bind, Except.bind]
  have htrailing : isTrailing (0xD800 + (c.toNat - 0x10000) / 0x400) = false := by
    simp [isTrailing]; omega
  have hleading : isLeading (0xD800 + (c.toNat - 0x10000) / 0x400) := by
    simp [isLeading]; omega
  have hvalue : (0xD800 + (c.toNat - 0x10000) / 0x400 - 0xD800) * 0x400 +
      (0xDC00 + (c.toNat - 0x10000) % 0x400 - 0xDC00) + 0x10000 = c.toNat := by omega
  simp only [unicodeEscape, hd.hexFour, hd.drop, hhalf, htrailing, hleading, hvalue, bind,
    Except.bind, pure, Except.pure, Char.ofNat_toNat, if_true, Bool.false_eq_true, if_false]

theorem Spelling.spelledBytes {u : List Char} (h : Spelling c u) (beyond : Nat) (s : Bytes) :
    spelledBytes beyond (utf8 u ++ s) =
      (spelledBytes beyond s).map (String.utf8EncodeChar c ++ ·) := by
  cases h with
  | plain hc => rw [utf8_cons, utf8_nil, List.append_nil, spelledBytes_plain hc.bytes]
  | letter hc =>
    obtain ⟨he, hu, hascii, hcontrol⟩ := escape_ascii hc
    rw [utf8_letter _ he, utf8_nil, List.cons_append, List.cons_append, List.nil_append,
      Json.spelledBytes, encoded_of_lt hascii]
    · simp only [hcontrol]
      rfl
    · exact hu
  | @code ds hd =>
    rw [← List.append_nil ds, utf8_code, List.cons_append, List.cons_append, utf8_nil,
      List.append_nil, Json.spelledBytes]
    simp only [unicodeEscape_code hd, hd.drop]
  | @pair ds es hc hd he =>
    have hdrop : (utf8 ds ++ 0x5C :: 0x75 :: (utf8 es ++ s)).drop 10 = s := by
      rw [← List.drop_drop (i := 6) (j := 4), hd.drop]
      exact he.drop s
    rw [List.cons_append, List.cons_append, utf8_code, ← List.append_nil es, utf8_code, utf8_nil,
      List.append_nil]
    simp only [List.cons_append, List.append_assoc, Json.spelledBytes,
      unicodeEscape_pair hc hd he, hdrop]

theorem Spells.spelledBytes (h : Spells cs w) {beyond : Nat} (hb : 0 < beyond) :
    spelledBytes beyond (utf8 w) = .ok (utf8 cs) := by
  induction h with
  | nil => rw [utf8_nil, Json.spelledBytes, if_neg (Nat.ne_of_gt hb)]
  | cons hc _ ih =>
    rw [utf8_append, hc.spelledBytes, ih]
    rfl

/-- A string as it stands in a text, its closing quote behind it. -/
structure Raw.Holds (r : Raw) (w : List Char) : Prop where
  bytes : r.bytes = utf8 w
  closed : 0 < r.beyond

theorem Raw.Holds.text {r : Raw} {s : String} (h : r.Holds w) (hs : Spells s.toList w) :
    r.text = .ok s := by
  rw [Raw.text, h.bytes, hs.spelledBytes h.closed]
  simp only [bind, Except.bind, fromUTF8?_utf8]

theorem Raw.Holds.skim {r : Raw} (h : r.Holds w) (hw : IsString w) : r.skim = .ok () := by
  rw [Raw.skim, h.bytes, hw.skimBytes h.closed]

end ScopeLexer.Json
