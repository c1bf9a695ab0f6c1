import ScopeLexer.Proofs.Json.Strings

/-! Numbers as they are read. A number that is written as it may be is read as far as it goes, by
whatever stands behind it that cannot go on with it; and the digits of a number that fits into 64
bits are read as that number, between quotes too. -/

namespace ScopeLexer.Json

open Text

/-- A byte that cannot go on with a number. -/
def EndsNumber (b : UInt8) : Prop := isDigit b = false ∧ b ≠ 0x2E ∧ b ≠ 0x65 ∧ b ≠ 0x45

instance (b : UInt8) : Decidable (EndsNumber b) := inferInstanceAs (Decidable (_ ∧ _))

/-- What a digit counts. -/
def digitValue (d : Char) : Nat := d.toNat - '0'.toNat

variable {ds whole fraction exponent : List Char} {s : Bytes}

/-! ### Digits -/

theorem digit_ascii {d : Char} (h : d.isDigit) :
    d.toNat < 0x80 ∧ isDigit (UInt8.ofNat d.toNat) ∧
      (UInt8.ofNat d.toNat).toNat - 0x30 = digitValue d := by
  simp only [Char.isDigit, Bool.and_eq_true, decide_eq_true_eq] at h
  have hlow : 0x30 ≤ d.toNat := h.1
  have hhigh : d.toNat ≤ 0x39 := h.2
  have hascii : d.toNat < 0x80 := by omega
  refine ⟨hascii, ?_, ?_⟩
  · simp only [isDigit, Bool.and_eq_true, decide_eq_true_eq, UInt8.le_iff_toNat_le,
      toNat_ofNat_ascii hascii]
    exact ⟨hlow, hhigh⟩
  · rw [toNat_ofNat_ascii hascii]
    rfl

theorem eq_zero_of_digitValue {d : Char} (h : d.isDigit) (hv : digitValue d = 0) : d = '0' := by
  simp only [Char.isDigit, Bool.and_eq_true, decide_eq_true_eq] at h
  have hlow : 0x30 ≤ d.toNat := h.1
  have hsub : d.toNat - 0x30 = 0 := hv
  exact Char.toNat_inj.1 (Nat.le_antisymm (Nat.le_of_sub_eq_zero hsub) hlow)

theorem digits_append (hd : ∀ d ∈ ds, d.isDigit) (hs : ∀ b ∈ s.head?, isDigit b = false) :
    digits (utf8 ds ++ s) = ds.map digitValue ∧ afterDigits (utf8 ds ++ s) = s := by
  induction ds with
  | nil =>
    cases s with
    | nil => exact ⟨rfl, rfl⟩
    | cons b s =>
      have hb := hs b rfl
      simp [digits, afterDigits, hb]
  | cons d ds ih =>
    obtain ⟨hascii, hdigit, hvalue⟩ := digit_ascii (hd d List.mem_cons_self)
    obtain ⟨ihd, iha⟩ := ih fun c hc => hd c (List.mem_cons_of_mem _ hc)
    rw [digits] at ihd
    rw [afterDigits] at iha
    rw [utf8_ascii hascii, List.cons_append, digits, afterDigits, List.takeWhile_cons_of_pos hdigit,
      List.dropWhile_cons_of_pos hdigit, List.map_cons, List.map_cons, hvalue, ihd, iha]
    exact ⟨rfl, rfl⟩

theorem AreDigits.digits (h : AreDigits ds) (hs : ∀ b ∈ s.head?, isDigit b = false) :
    digits (utf8 ds ++ s) = ds.map digitValue ∧ afterDigits (utf8 ds ++ s) = s ∧
      (ds.map digitValue).isEmpty = false :=
  ⟨(digits_append h.2 hs).1, (digits_append h.2 hs).2, by simp [h.1]⟩

/-- Digits begin with a digit. -/
theorem AreDigits.exists_cons (h : AreDigits ds) : ∃ d rest, ds = d :: rest ∧ d.isDigit := by
  obtain ⟨d, rest, rfl⟩ := List.exists_cons_of_ne_nil h.1
  exact ⟨d, rest, rfl, h.2 d List.mem_cons_self⟩

/-! ### Parts -/

theorem IsFraction.read (h : IsFraction fraction)
    (hs : ∀ b ∈ s.head?, isDigit b = false ∧ b ≠ 0x2E) :
    ∃ f, readFraction? (utf8 fraction ++ s) = .ok (f, s) := by
  rcases h with rfl | ⟨ds, hds, rfl⟩
  · refine ⟨[], ?_⟩
    rw [utf8_nil, List.nil_append, readFraction?]
    intro t ht
    exact (hs 0x2E (by rw [ht]; rfl)).2 rfl
  · obtain ⟨hd, ha, hne⟩ := hds.digits fun b hb => (hs b hb).1
    refine ⟨ds.map digitValue, ?_⟩
    rw [utf8_byte (b := 0x2E) (by decide) rfl, List.cons_append]
    simp [readFraction?, hd, ha, hds.1]

/-- Digits after a sign or none are an exponent. -/
theorem readExponent_sign {sign : List Char} (hsign : sign ∈ [[], ['+'], ['-']])
    (hds : AreDigits ds) (hs : ∀ b ∈ s.head?, isDigit b = false) :
    ∃ e, readExponent (utf8 (sign ++ ds) ++ s) = .ok (e, s) := by
  obtain ⟨hd, ha, hne⟩ := hds.digits hs
  simp only [List.mem_cons, List.not_mem_nil, or_false] at hsign
  rcases hsign with rfl | rfl | rfl
  · have hplain : ∀ b t, utf8 ds ++ s = b :: t → isDigit b := by
      obtain ⟨d, rest, rfl, hdigit⟩ := hds.exists_cons
      obtain ⟨hascii, hbyte, -⟩ := digit_ascii hdigit
      intro b t ht
      rw [utf8_ascii hascii] at ht
      exact (List.cons.inj ht).1 ▸ hbyte
    refine ⟨(false, ds.map digitValue), ?_⟩
    rw [List.nil_append, readExponent]
    · simp [hd, ha, hds.1]
    · exact fun t ht => absurd (hplain _ t ht) (by decide)
    · exact fun t ht => absurd (hplain _ t ht) (by decide)
  · refine ⟨(false, ds.map digitValue), ?_⟩
    rw [List.singleton_append, utf8_byte (b := 0x2B) (by decide) rfl, List.cons_append]
    simp [readExponent, hd, ha, hds.1]
  · refine ⟨(true, ds.map digitValue), ?_⟩
    rw [List.singleton_append, utf8_byte (b := 0x2D) (by decide) rfl, List.cons_append]
    simp [readExponent, hd, ha, hds.1]

theorem IsExponent.read (h : IsExponent exponent) (hs : ∀ b ∈ s.head?, EndsNumber b) :
    ∃ e, readExponent? (utf8 exponent ++ s) = .ok (e, s) := by
  rcases h with rfl | ⟨e, he, sign, hsign, ds, hds, rfl⟩
  · refine ⟨none, ?_⟩
    rw [utf8_nil, List.nil_append, readExponent?]
    · exact fun t ht => (hs 0x65 (by rw [ht]; rfl)).2.2.1 rfl
    · exact fun t ht => (hs 0x45 (by rw [ht]; rfl)).2.2.2 rfl
  · obtain ⟨x, hx⟩ := readExponent_sign hsign hds fun b hb => (hs b hb).1
    refine ⟨some x, ?_⟩
    simp only [List.mem_cons, List.not_mem_nil, or_false] at he
    rcases he with rfl | rfl
    · rw [utf8_byte (b := 0x65) (by decide) rfl, List.cons_append, readExponent?]
      simp only [hx, Except.map]
    · rw [utf8_byte (b := 0x45) (by decide) rfl, List.cons_append, readExponent?]
      simp only [hx, Except.map]

/-! ### Numbers -/

/-- After the whole digits the other parts are read. -/
theorem IsWhole.read (h : IsWhole whole) (negative : Bool) (hs : ∀ b ∈ s.head?, isDigit b = false) :
    readNumeral negative (utf8 whole ++ s) = do
      let (fraction, s) ← readFraction? s
      let (exponent, s) ← readExponent? s
      return (⟨negative, whole.map digitValue, fraction, exponent⟩, s) := by
  obtain ⟨hd, ha, hne⟩ := h.1.digits hs
  have hzero : ¬(1 < (whole.map digitValue).length ∧ (whole.map digitValue).head? = some 0) := by
    rintro ⟨hlength, hhead⟩
    obtain ⟨d, rest, rfl, hdigit⟩ := h.1.exists_cons
    have hvalue : digitValue d = 0 := Option.some.inj hhead
    have hd : d = '0' := eq_zero_of_digitValue hdigit hvalue
    have := h.2 (by rw [hd]; rfl)
    rw [this] at hlength
    exact Nat.lt_irrefl _ hlength
  rw [readNumeral]
  simp only [hd, ha, hne, hzero, Bool.false_eq_true, if_false]

/-- A fraction begins with a point, unless there is none. -/
theorem IsFraction.head (h : IsFraction fraction) (hs : ∀ b ∈ s.head?, isDigit b = false) :
    ∀ b ∈ (utf8 fraction ++ s).head?, isDigit b = false := by
  rcases h with rfl | ⟨ds, -, rfl⟩
  · exact hs
  · intro b hb
    rw [utf8_byte (b := 0x2E) (by decide) rfl] at hb
    obtain rfl := Option.some.inj hb
    decide

/-- An exponent begins with its letter, unless there is none. -/
theorem IsExponent.head (h : IsExponent exponent) (hs : ∀ b ∈ s.head?, EndsNumber b) :
    ∀ b ∈ (utf8 exponent ++ s).head?, isDigit b = false ∧ b ≠ 0x2E := by
  rcases h with rfl | ⟨e, he, sign, -, ds, -, rfl⟩
  · exact fun b hb => ⟨(hs b hb).1, (hs b hb).2.1⟩
  · intro b hb
    simp only [List.mem_cons, List.not_mem_nil, or_false] at he
    rcases he with rfl | rfl
    · rw [utf8_byte (b := 0x65) (by decide) rfl] at hb
      obtain rfl := Option.some.inj hb
      decide
    · rw [utf8_byte (b := 0x45) (by decide) rfl] at hb
      obtain rfl := Option.some.inj hb
      decide

theorem numberToken_eq (hw : IsWhole whole) (hf : IsFraction fraction) (he : IsExponent exponent)
    (negative : Bool) (hs : ∀ b ∈ s.head?, EndsNumber b) :
    ∃ n, numberToken negative (utf8 (whole ++ (fraction ++ exponent)) ++ s) =
      (.number n, some s) := by
  obtain ⟨f, hfraction⟩ := hf.read (he.head hs)
  obtain ⟨e, hexponent⟩ := he.read hs
  refine ⟨⟨negative, whole.map digitValue, f, e⟩, ?_⟩
  rw [utf8_append, utf8_append, List.append_assoc, List.append_assoc, numberToken,
    hw.read negative (hf.head fun b hb => (he.head hs b hb).1), hfraction]
  simp only [bind, Except.bind, hexponent, pure, Except.pure]

theorem isBlank_digit {b : UInt8} (h : isDigit b) : isBlank b = false := by
  rw [Bool.eq_false_iff]
  intro hb
  simp only [isBlank, Bool.or_eq_true, decide_eq_true_eq] at hb
  rcases hb with ((rfl | rfl) | rfl) | rfl <;> exact absurd h (by decide)

theorem nextToken_digit {b : UInt8} (h : isDigit b) (s : Bytes) :
    nextToken b s = numberToken false (b :: s) := by
  rw [nextToken, if_pos h]
  all_goals
    rintro rfl
    exact absurd h (by decide)

/-- A number is read up to a byte that cannot go on with it. -/
theorem IsNumber.nextToken {cs : List Char} (h : IsNumber cs) (hs : ∀ b ∈ s.head?, EndsNumber b) :
    ∃ b t n, utf8 cs ++ s = b :: t ∧ isBlank b = false ∧ nextToken b t = (.number n, some s) := by
  cases h with
  | @parts sign whole fraction exponent hsign hw hf he =>
    rcases hsign with rfl | rfl
    · obtain ⟨n, hn⟩ := numberToken_eq hw hf he false hs
      obtain ⟨d, rest, rfl, hdigit⟩ := hw.1.exists_cons
      obtain ⟨hascii, hbyte, -⟩ := digit_ascii hdigit
      rw [List.cons_append, utf8_ascii hascii] at hn
      refine ⟨UInt8.ofNat d.toNat, _, n, ?_, isBlank_digit hbyte,
        (nextToken_digit hbyte _).trans hn⟩
      rw [List.nil_append, List.cons_append, utf8_ascii hascii]
      rfl
    · obtain ⟨n, hn⟩ := numberToken_eq hw hf he true hs
      refine ⟨0x2D, _, n, ?_, rfl, hn⟩
      rw [List.singleton_append, utf8_byte (b := 0x2D) (by decide) rfl]
      rfl

/-! ### Numbers in quotes -/

theorem le_decimal (n : Nat) (ds : List Nat) : n ≤ ds.foldl (10 * · + ·) n := by
  induction ds generalizing n with
  | nil => exact Nat.le_refl n
  | cons d ds ih =>
    have := ih (10 * n + d)
    rw [List.foldl_cons]
    omega

/-- While a number fits, all its digits are read. -/
theorem accumulate_eq {n : Nat} {ds : List Nat} (h : ds.foldl (10 * · + ·) n ≤ largest) :
    accumulate n ds = (ds.foldl (10 * · + ·) n, []) := by
  induction ds generalizing n with
  | nil => rfl
  | cons d ds ih =>
    rw [List.foldl_cons] at h
    rw [accumulate, if_pos (Nat.le_trans (le_decimal _ ds) h), ih h, List.foldl_cons]

theorem decimal_toDigits (n : Nat) :
    ((Nat.toDigits 10 n).map digitValue).foldl (10 * · + ·) 0 = n := by
  rw [List.foldl_map]
  exact Nat.ofDigitChars_ten_toDigits

theorem isWhole_toDigits (n : Nat) : IsWhole (Nat.toDigits 10 n) := by
  refine ⟨⟨Nat.toDigits_ne_nil, fun d hd => Nat.isDigit_of_mem_toDigits (by decide) (by decide) hd⟩,
    fun hzero => ?_⟩
  induction n using Nat.strongRecOn with
  | ind n ih =>
    rw [Nat.toDigits_eq_if (by decide)] at hzero ⊢
    split at hzero
    · next hn =>
      rw [if_pos hn]
      simpa using hzero
    · next hn =>
      obtain ⟨d, rest, hds⟩ :=
        List.exists_cons_of_ne_nil (Nat.toDigits_ne_nil (n := n / 10) (b := 10))
      rw [hds] at hzero
      have hdigits := ih (n / 10) (by omega) (hds ▸ hzero)
      have hvalue : n / 10 = 0 := by
        rw [← Nat.ofDigitChars_ten_toDigits (n := n / 10), hdigits]
        rfl
      omega

/-- The digits of a number that fits into 64 bits are read as it. -/
theorem Raw.Holds.number {r : Raw} {n : Nat} (h : r.Holds (toString n).toList) (hn : n ≤ largest)
    {α : Type} (accept : Number → Except Fault α) : r.number accept = accept (.unsigned n) := by
  have hbytes : r.bytes = utf8 (Nat.toDigits 10 n) := by
    rw [h.bytes, Nat.toString_eq_repr, Nat.toList_repr]
  have hread : readNumeral false (r.bytes ++ [0x22]) =
      .ok (⟨false, (Nat.toDigits 10 n).map digitValue, [], none⟩, [0x22]) := by
    rw [hbytes, (isWhole_toDigits n).read false (by simp [isDigit])]
    rfl
  have hvalue : Numeral.value ⟨false, (Nat.toDigits 10 n).map digitValue, [], none⟩ =
      .ok (.unsigned n) := by
    have hfits : ((Nat.toDigits 10 n).map digitValue).foldl (10 * · + ·) 0 ≤ largest := by
      rw [decimal_toDigits]
      exact hn
    rw [Numeral.value, accumulate_eq hfits, decimal_toDigits]
    rfl
  obtain ⟨d, rest, hds, hdigit⟩ := (isWhole_toDigits n).1.exists_cons
  obtain ⟨hascii, hbyte, -⟩ := digit_ascii hdigit
  rw [hds, utf8_ascii hascii] at hbytes
  rw [hbytes] at hread
  rw [Raw.number, if_neg (Nat.ne_of_gt h.closed), hbytes]
  split
  · next t ht =>
    have hminus := (List.cons.inj ht).1
    rw [hminus] at hbyte
    exact absurd hbyte (by decide)
  · next b t _ ht =>
    obtain ⟨rfl, rfl⟩ := List.cons.inj ht
    rw [if_pos hbyte]
    simp only [bind, Except.bind, hread, hvalue, if_true]
    cases accept (.unsigned n) <;> rfl
  · next ht => cases ht

end ScopeLexer.Json
