import ScopeLexer.Proofs.Language.Unnumbered
import ScopeLexer.Proofs.Text.Encoding

/-! What the check for references by number finds: a backslash that an even number of backslashes
precedes, and behind it what refers to a group by its number. The check may as well go over the
bytes of the pattern, two at a time behind a backslash: a byte that it passes over without a look
is never one that counts. -/

namespace ScopeLexer.Language

/-- What refers to a group by its number, behind a backslash: a digit other than zero, or a number
in brackets or quotes behind one of two letters. -/
inductive IsReference : List Char → Prop
  | digit {d rest} (least : '1' ≤ d) (most : d ≤ '9') : IsReference (d :: rest)
  | enclosed {letter opening d rest} (letters : letter = 'k' ∨ letter = 'g')
    (openings : opening = '<' ∨ opening = '\x27') (least : '0' ≤ d) (most : d ≤ '9') :
    IsReference (letter :: opening :: d :: rest)

/-- How many backslashes stand at the end of a text. -/
def backslashes (s : List Char) : Nat := (s.reverse.takeWhile (· = '\\')).length

theorem isDigit_iff {c : Char} : c.isDigit = true ↔ '0' ≤ c ∧ c ≤ '9' := by
  simp [Char.isDigit, Char.le_def]

theorem isNumberedReference_iff {s : List Char} : isNumberedReference s = true ↔ IsReference s := by
  constructor
  · intro h
    fun_cases isNumberedReference s with
    | case1 c d e rest =>
      simp only [isNumberedReference, Bool.or_eq_true, Bool.and_eq_true, decide_eq_true_eq,
        isDigit_iff] at h
      obtain ⟨h1, h9⟩ | ⟨⟨hletter, hopening⟩, h0, h9⟩ := h
      · exact .digit h1 h9
      · exact .enclosed hletter hopening h0 h9
    | case2 c rest =>
      simp only [isNumberedReference, Bool.and_eq_true, decide_eq_true_eq] at h
      exact .digit h.1 h.2
    | case3 => cases h
  · intro h
    cases h with
    | digit h1 h9 => exact isNumberedReference_digit h1 h9 _
    | enclosed hletter hopening h0 h9 =>
      simp [isNumberedReference, hletter, hopening, isDigit_iff, h0, h9]

/-! ### Backslashes -/

theorem backslashes_cons (c : Char) (s : List Char) :
    backslashes (c :: s) = if backslashes s = s.length ∧ c = '\\' then s.length + 1
      else backslashes s := by
  unfold backslashes
  rw [List.reverse_cons, List.takeWhile_append, List.length_reverse]
  by_cases hs : (s.reverse.takeWhile (· = '\\')).length = s.length
  · by_cases hc : c = '\\' <;> simp [hs, hc]
  · simp [hs]

theorem backslashes_cons_of_ne {c : Char} (hc : c ≠ '\\') (s : List Char) :
    backslashes (c :: s) = backslashes s := by
  rw [backslashes_cons, if_neg fun h => hc h.2]

theorem backslashes_le (s : List Char) : backslashes s ≤ s.length := by
  simpa [backslashes] using (s.reverse.takeWhile_sublist (· = '\\')).length_le

/-- An escaped character in front makes no difference to what the backslashes at the end escape. -/
theorem backslashes_pair (c : Char) (s : List Char) :
    backslashes ('\\' :: c :: s) % 2 = backslashes s % 2 := by
  have hle := backslashes_le s
  rw [backslashes_cons, backslashes_cons c, List.length_cons]
  by_cases h : backslashes s = s.length ∧ c = '\\'
  · rw [if_pos h, if_pos ⟨rfl, rfl⟩]
    omega
  · rw [if_neg h, if_neg fun h' => by omega]

theorem not_isReference_nil : ¬IsReference [] := nofun

theorem hasNumberedReference_iff {s : List Char} : hasNumberedReference s = true ↔
    ∃ before rest, s = before ++ '\\' :: rest ∧ backslashes before % 2 = 0 ∧ IsReference rest := by
  fun_induction hasNumberedReference s with
  | case1 c rest ih =>
    rw [Bool.or_eq_true, isNumberedReference_iff, ih]
    constructor
    · rintro (h | ⟨before, rest', rfl, hb, h⟩)
      · exact ⟨[], c :: rest, rfl, rfl, h⟩
      · exact ⟨'\\' :: c :: before, rest', rfl, by rw [backslashes_pair, hb], h⟩
    · rintro ⟨_ | ⟨b, _ | ⟨b', before⟩⟩, rest', heq, hb, h⟩
      · obtain ⟨-, rfl⟩ := List.cons.inj heq
        exact .inl h
      · obtain ⟨rfl, -⟩ := List.cons.inj heq
        exact absurd hb (by decide)
      · obtain ⟨rfl, htail⟩ := List.cons.inj heq
        obtain ⟨rfl, rfl⟩ := List.cons.inj htail
        exact .inr ⟨before, rest', rfl, by rwa [backslashes_pair] at hb, h⟩
  | case2 c rest hc ih =>
    rw [ih]
    by_cases hslash : c = '\\'
    · -- a backslash at the very end
      obtain rfl : rest = [] := by
        cases rest with
        | nil => rfl
        | cons d rest => exact (hc d rest hslash rfl).elim
      constructor
      · rintro ⟨before, rest', heq, -⟩
        exact absurd heq (by simp)
      · rintro ⟨_ | ⟨b, before⟩, rest', heq, -, h⟩
        · obtain ⟨-, rfl⟩ := List.cons.inj heq
          exact absurd h not_isReference_nil
        · exact absurd (List.cons.inj heq).2 (by simp)
    · constructor
      · rintro ⟨before, rest', rfl, hb, h⟩
        exact ⟨c :: before, rest', rfl, by rwa [backslashes_cons_of_ne hslash], h⟩
      · rintro ⟨_ | ⟨b, before⟩, rest', heq, hb, h⟩
        · exact absurd (List.cons.inj heq).1 hslash
        · obtain ⟨rfl, rfl⟩ := List.cons.inj heq
          exact ⟨before, rest', rfl, by rwa [backslashes_cons_of_ne hslash] at hb, h⟩
  | case3 => simp

/-- A backslash ends whatever might become a reference. -/
theorem isReference_append_backslash {s rest : List Char} (hs : s ≠ []) :
    IsReference (s ++ '\\' :: rest) ↔ IsReference s := by
  constructor
  · intro h
    obtain ⟨c, s, rfl⟩ := List.exists_cons_of_ne_nil hs
    generalize hall : c :: s ++ '\\' :: rest = all at h
    cases h with
    | digit h1 h9 =>
      obtain ⟨rfl, -⟩ := List.cons.inj hall
      exact .digit h1 h9
    | enclosed hletter hopening h0 h9 =>
      rcases s with _ | ⟨d, _ | ⟨e, s⟩⟩
      · obtain ⟨-, hopens⟩ := List.cons.inj hall
        obtain ⟨rfl, -⟩ := List.cons.inj hopens
        exact absurd hopening (by decide)
      · obtain ⟨-, hopens⟩ := List.cons.inj hall
        obtain ⟨-, hdigit⟩ := List.cons.inj hopens
        obtain ⟨rfl, -⟩ := List.cons.inj hdigit
        exact absurd h9 (by decide)
      · obtain ⟨rfl, hopens⟩ := List.cons.inj hall
        obtain ⟨rfl, hdigit⟩ := List.cons.inj hopens
        obtain ⟨rfl, -⟩ := List.cons.inj hdigit
        exact .enclosed hletter hopening h0 h9
  · rintro (⟨h1, h9⟩ | ⟨hletter, hopening, h0, h9⟩)
    · exact .digit h1 h9
    · exact .enclosed hletter hopening h0 h9

/-- An escaped backslash neither hides a reference behind it nor makes one. -/
theorem hasNumberedReference_escaped {before : List Char} (hb : backslashes before % 2 = 0)
    (rest : List Char) : hasNumberedReference (before ++ '\\' :: '\\' :: rest) = true ↔
      hasNumberedReference before = true ∨ hasNumberedReference rest = true := by
  fun_induction hasNumberedReference before with
  | case1 c before ih =>
    rw [backslashes_pair] at hb
    rw [List.cons_append, List.cons_append, hasNumberedReference, Bool.or_eq_true, Bool.or_eq_true,
      ih hb, or_assoc, isNumberedReference_iff, isNumberedReference_iff, ← List.cons_append,
      isReference_append_backslash (List.cons_ne_nil _ _)]
  | case2 c before hc ih =>
    by_cases hslash : c = '\\'
    · cases before with
      | nil =>
        subst hslash
        exact absurd hb (by decide)
      | cons d before => exact (hc d before hslash rfl).elim
    · rw [backslashes_cons_of_ne hslash] at hb
      rw [List.cons_append, hasNumberedReference_cons hslash, ih hb]
  | case3 =>
    have hnone : isNumberedReference ('\\' :: rest) = false := by
      rcases rest with _ | ⟨d, _ | ⟨e, rest⟩⟩ <;> simp [isNumberedReference]
    rw [List.nil_append, hasNumberedReference, hnone]
    simp

/-! ### Bytes -/

/-- There is a byte at `i`, and the character with its number is as `p` says. -/
def byteIs (bytes : ByteArray) (i : Nat) (p : Char → Bool) : Bool :=
  bytes[i]?.any fun b => p (Char.ofUInt8 b)

/-- The bytes from `i` on, behind a backslash, refer to a group by its number. -/
def isReferenceAt (bytes : ByteArray) (i : Nat) : Bool :=
  byteIs bytes i (fun c => '1' ≤ c && c ≤ '9') ||
    (byteIs bytes i (fun c => c = 'k' || c = 'g') &&
      byteIs bytes (i + 1) (fun c => c = '<' || c = '\x27') && byteIs bytes (i + 2) Char.isDigit)

/-- Looks for a reference by number from byte `i` on, and past two bytes at a backslash. -/
def referenceFrom (bytes : ByteArray) (i : Nat) : Bool :=
  if h : i < bytes.size then
    if bytes[i] = 0x5C then isReferenceAt bytes (i + 1) || referenceFrom bytes (i + 2)
    else referenceFrom bytes (i + 1)
  else false
termination_by bytes.size - i

section Bytes

variable {bytes : ByteArray} {i : Nat} {cs : List Char} {s : List UInt8}

theorem getElem?_of_drop (h : bytes.data.toList.drop i = s) (k : Nat) : bytes[i + k]? = s[k]? := by
  rw [← h, List.getElem?_drop]
  by_cases hk : i + k < bytes.size
  · rw [getElem?_pos bytes _ hk, getElem?_pos bytes.data.toList _ (by simpa using hk)]
    rfl
  · rw [getElem?_neg bytes _ hk, getElem?_neg bytes.data.toList _ (by simpa using hk)]

theorem toNat_ofUInt8 (b : UInt8) : (Char.ofUInt8 b).toNat = b.toNat := UInt8.toNat_toUInt32 b

/-- A condition that only characters in ASCII meet holds of a byte where it holds of a character. -/
theorem byteIs_of_drop {p : Char → Bool} (hp : ∀ c, p c = true → c.toNat < 0x80)
    (h : bytes.data.toList.drop i = Text.utf8 cs) : byteIs bytes i p = cs.head?.any p := by
  rw [byteIs, ← Nat.add_zero i, getElem?_of_drop h 0]
  cases cs with
  | nil => rfl
  | cons c cs =>
    rw [Text.utf8_cons]
    rcases Text.encoded_cases c with ⟨hc, he⟩ | ⟨hc, he⟩
    · have hn : Char.ofUInt8 (UInt8.ofNat c.toNat) = c := by
        rw [← Char.toNat_inj, toNat_ofUInt8]
        exact UInt8.toNat_ofNat_of_lt' (Nat.lt_trans hc (by decide))
      simp [he, hn]
    · have hpc : p c = false := Bool.eq_false_iff.2 fun hpc => Nat.not_lt_of_le hc (hp c hpc)
      cases hb : String.utf8EncodeChar c with
      | nil => exact absurd hb String.utf8EncodeChar_ne_nil
      | cons b bs =>
        have hle : 0x80 ≤ b.toNat := UInt8.le_iff_toNat_le.1 (he b (hb ▸ List.mem_cons_self))
        have hpb : p (Char.ofUInt8 b) = false :=
          Bool.eq_false_iff.2 fun hpb => Nat.not_lt_of_le hle (toNat_ofUInt8 b ▸ hp _ hpb)
        simp [hpc, hpb]

theorem drop_succ_of_lt {c : Char} (h : bytes.data.toList.drop i = Text.utf8 (c :: cs))
    (hc : c.toNat < 0x80) : bytes.data.toList.drop (i + 1) = Text.utf8 cs := by
  rw [← List.drop_drop, h, Text.utf8_cons, Text.encoded_of_lt hc]
  rfl

theorem isReferenceAt_of_drop (h : bytes.data.toList.drop i = Text.utf8 cs) :
    isReferenceAt bytes i = isNumberedReference cs := by
  have hmost : ∀ {c d : Char}, c ≤ d → d.toNat < 0x80 → c.toNat < 0x80 := fun hcd hd =>
    Nat.lt_of_le_of_lt (UInt32.le_iff_toNat_le.1 hcd) hd
  have hdigit : ∀ c : Char, c.isDigit = true → c.toNat < 0x80 := fun c hc =>
    hmost (isDigit_iff.1 hc).2 (by decide)
  have heither : ∀ {d e : Char}, d.toNat < 0x80 → e.toNat < 0x80 →
      ∀ c : Char, (decide (c = d) || decide (c = e)) = true → c.toNat < 0x80 := by
    intro d e hd he c hc
    rcases Bool.or_eq_true_iff.1 hc with hc | hc
    · exact of_decide_eq_true hc ▸ hd
    · exact of_decide_eq_true hc ▸ he
  have hletter := heither (d := 'k') (e := 'g') (by decide) (by decide)
  have hopening := heither (d := '<') (e := '\x27') (by decide) (by decide)
  have hfirst : ∀ c : Char, (decide ('1' ≤ c) && decide (c ≤ '9')) = true → c.toNat < 0x80 :=
    fun c hc => hmost (of_decide_eq_true (Bool.and_eq_true_iff.1 hc).2) (by decide)
  rw [isReferenceAt, byteIs_of_drop hfirst h, byteIs_of_drop hletter h]
  cases cs with
  | nil => rfl
  | cons c cs =>
    by_cases hc : (decide (c = 'k') || decide (c = 'g')) = true
    · have h1 := drop_succ_of_lt h (hletter c hc)
      rw [byteIs_of_drop hopening h1]
      cases cs with
      | nil => simp [isNumberedReference]
      | cons d cs =>
        by_cases hd : (decide (d = '<') || decide (d = '\x27')) = true
        · have h2 := drop_succ_of_lt h1 (hopening d hd)
          rw [byteIs_of_drop hdigit h2]
          cases cs with
          | nil => simp [isNumberedReference]
          | cons e cs => rfl
        · cases cs <;> simp [isNumberedReference, hd]
    · rcases cs with _ | ⟨d, _ | ⟨e, cs⟩⟩ <;> simp [isNumberedReference, hc]

theorem referenceFrom_skip {skipped : List UInt8} (h : bytes.data.toList.drop i = skipped ++ s)
    (hs : ∀ b ∈ skipped, b ≠ 0x5C) :
    referenceFrom bytes i = referenceFrom bytes (i + skipped.length) := by
  induction skipped generalizing i with
  | nil => rfl
  | cons b skipped ih =>
    have hi : bytes[i]? = some b := getElem?_of_drop h 0
    obtain ⟨hlt, hb⟩ := getElem?_eq_some_iff.1 hi
    have h' : bytes.data.toList.drop (i + 1) = skipped ++ s := by
      rw [← List.drop_drop, h]
      rfl
    rw [referenceFrom, dif_pos hlt, hb, if_neg (hs b List.mem_cons_self), List.length_cons,
      ih h' fun b' hb' => hs b' (List.mem_cons_of_mem _ hb'), Nat.add_right_comm, Nat.add_assoc]

theorem referenceFrom_backslash (h : bytes.data.toList.drop i = 0x5C :: s) :
    referenceFrom bytes i = (isReferenceAt bytes (i + 1) || referenceFrom bytes (i + 2)) := by
  have hi : bytes[i]? = some 0x5C := getElem?_of_drop h 0
  obtain ⟨hlt, hb⟩ := getElem?_eq_some_iff.1 hi
  rw [referenceFrom, dif_pos hlt, hb, if_pos rfl]

theorem referenceFrom_end (h : bytes.data.toList.drop i = []) : referenceFrom bytes i = false := by
  have hle : bytes.size ≤ i := by simpa using List.drop_eq_nil_iff.1 h
  rw [referenceFrom, dif_neg (Nat.not_lt_of_le hle)]

theorem ne_backslash_of_mem {c : Char} (hc : c ≠ '\\') {b : UInt8}
    (hb : b ∈ String.utf8EncodeChar c) : b ≠ 0x5C := by
  rcases Text.encoded_cases c with ⟨hlt, he⟩ | ⟨-, he⟩
  · rintro rfl
    rw [he, List.mem_singleton] at hb
    have hn := congrArg UInt8.toNat hb
    rw [UInt8.toNat_ofNat_of_lt' (Nat.lt_trans hlt (by decide))] at hn
    exact hc (Char.toNat_inj.1 hn.symm)
  · rintro rfl
    exact absurd (he _ hb) (by decide)

/-- Behind the first byte of a character no byte of it is a backslash. -/
theorem ne_backslash_of_mem_tail {c : Char} {b : UInt8}
    (hb : b ∈ (String.utf8EncodeChar c).tail) : b ≠ 0x5C := by
  by_cases hc : c = '\\'
  · subst hc
    cases hb
  · exact ne_backslash_of_mem hc (List.mem_of_mem_tail hb)

theorem referenceFrom_of_drop (h : bytes.data.toList.drop i = Text.utf8 cs) :
    referenceFrom bytes i = hasNumberedReference cs := by
  fun_induction hasNumberedReference cs generalizing i with
  | case1 c rest ih =>
    have h1 : bytes.data.toList.drop (i + 1) = Text.utf8 (c :: rest) :=
      drop_succ_of_lt h (by decide)
    have h2 : bytes.data.toList.drop (i + 2) =
        (String.utf8EncodeChar c).tail ++ Text.utf8 rest := by
      rw [← List.drop_drop (i := 1), h1, Text.utf8_cons, List.drop_append_of_le_length,
        List.drop_one]
      exact List.length_pos_iff.2 String.utf8EncodeChar_ne_nil
    have h3 : bytes.data.toList.drop (i + 2 + (String.utf8EncodeChar c).tail.length) =
        Text.utf8 rest := by
      rw [← List.drop_drop, h2, List.drop_left]
    rw [referenceFrom_backslash h, isReferenceAt_of_drop h1,
      referenceFrom_skip h2 fun _ => ne_backslash_of_mem_tail, ih h3]
  | case2 c rest hc ih =>
    by_cases hslash : c = '\\'
    · -- a backslash at the very end
      obtain rfl : rest = [] := by
        cases rest with
        | nil => rfl
        | cons d rest => exact (hc d rest hslash rfl).elim
      subst hslash
      have h1 : bytes.data.toList.drop (i + 1) = Text.utf8 [] := drop_succ_of_lt h (by decide)
      have h2 : bytes.data.toList.drop (i + 2) = [] := by
        rw [← List.drop_drop (i := 1), h1]
        rfl
      rw [referenceFrom_backslash h, isReferenceAt_of_drop h1, referenceFrom_end h2]
      rfl
    · have h1 : bytes.data.toList.drop (i + (String.utf8EncodeChar c).length) = Text.utf8 rest := by
        rw [← List.drop_drop, h, Text.utf8_cons, List.drop_left]
      rw [referenceFrom_skip h fun _ => ne_backslash_of_mem hslash, ih h1]
  | case3 => exact referenceFrom_end h

end Bytes

/-- The check finds the references by number that are not escaped and nothing else. It may go over
the characters of a pattern or over its bytes, of which it asks none beyond the last one, and what
stands before an escaped backslash and behind it is checked each on its own. -/
theorem finds_unescaped_references (pattern : String) :
    (hasNumberedReference pattern.toList = true ↔
      ∃ before rest, pattern.toList = before ++ '\\' :: rest ∧ backslashes before % 2 = 0 ∧
        IsReference rest) ∧
    referenceFrom pattern.toUTF8 0 = hasNumberedReference pattern.toList ∧
    ∀ before rest, pattern.toList = before ++ '\\' :: '\\' :: rest → backslashes before % 2 = 0 →
      (hasNumberedReference pattern.toList = true ↔
        hasNumberedReference before = true ∨ hasNumberedReference rest = true) := by
  refine ⟨hasNumberedReference_iff, referenceFrom_of_drop (Text.data_toUTF8 pattern), ?_⟩
  intro before rest hpattern hb
  rw [hpattern]
  exact hasNumberedReference_escaped hb rest

/-- An escaped character of two bytes, an escaped backslash and a reference behind it. -/
theorem finds_unescaped_references_umlaut :
    "\\ä\\\\\\1".toList = ['\\', 'ä'] ++ '\\' :: '\\' :: ['\\', '1'] ∧
    backslashes ['\\', 'ä'] % 2 = 0 ∧
    (hasNumberedReference "\\ä\\\\\\1".toList = true ↔
      hasNumberedReference ['\\', 'ä'] = true ∨ hasNumberedReference ['\\', '1'] = true) := by
  have htext : "\\ä\\\\\\1".toList = ['\\', 'ä'] ++ '\\' :: '\\' :: ['\\', '1'] := by decide
  have heven : backslashes ['\\', 'ä'] % 2 = 0 := by decide
  exact ⟨htext, heven, (finds_unescaped_references "\\ä\\\\\\1").2.2 _ _ htext heven⟩

end ScopeLexer.Language
