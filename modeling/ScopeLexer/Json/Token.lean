import ScopeLexer.Json.Raw
import ScopeLexer.Outcome

/-! Tokens of a JSON text. Where no token can be read there is a last one that says why. -/

namespace ScopeLexer.Json

inductive Token
  | listOpen
  | listClose
  | objectOpen
  | objectClose
  | comma
  | colon
  | null
  | boolean (b : Bool)
  | number (n : Numeral)
  | string (r : Raw)
  | badWord (truncated : Bool)
  | badNumber (f : NumberFault)
  | stray
  deriving DecidableEq, Repr

/-- The bytes before the quote that ends a string, and those after it. -/
def untilQuote : Bytes → Bytes × Option Bytes
  | [] => ([], none)
  | 0x22 :: rest => ([], some rest)
  | 0x5C :: b :: rest => (0x5C :: b :: (untilQuote rest).1, (untilQuote rest).2)
  | b :: rest => (b :: (untilQuote rest).1, (untilQuote rest).2)

/-- What follows the letters of a word, or whether the text breaks off before they differ. -/
def afterWord : (word : List Char) → Bytes → Except Bool Bytes
  | [], s => .ok s
  | _, [] => .error true
  | c :: word, b :: s => if b.toNat = c.toNat then afterWord word s else .error false

def isBlank (b : UInt8) : Bool := b = 0x20 || b = 0x0A || b = 0x09 || b = 0x0D

/-- A word that stands for a token. -/
def wordToken (t : Token) (word : String) (s : Bytes) : Token × Option Bytes :=
  match afterWord word.toList s with
  | .ok rest => (t, some rest)
  | .error truncated => (.badWord truncated, none)

def numberToken (negative : Bool) (s : Bytes) : Token × Option Bytes :=
  match readNumeral negative s with
  | .ok (n, rest) => (.number n, some rest)
  | .error f => (.badNumber f, none)

def stringToken (s : Bytes) : Token × Option Bytes :=
  (.string ⟨(untilQuote s).1, ((untilQuote s).2.map (·.length + 1)).getD 0⟩, (untilQuote s).2)

/-- The token that starts with `b`, and the text after it unless reading ends with the token. -/
def nextToken (b : UInt8) (s : Bytes) : Token × Option Bytes :=
  match b with
  | 0x5B => (.listOpen, some s)
  | 0x5D => (.listClose, some s)
  | 0x7B => (.objectOpen, some s)
  | 0x7D => (.objectClose, some s)
  | 0x2C => (.comma, some s)
  | 0x3A => (.colon, some s)
  | 0x22 => stringToken s
  | 0x2D => numberToken true s
  | 0x6E => wordToken .null "ull" s
  | 0x74 => wordToken (.boolean true) "rue" s
  | 0x66 => wordToken (.boolean false) "alse" s
  | b => if isDigit b then numberToken false (b :: s) else (.stray, none)

/-! ### Lengths -/

theorem untilQuote_length (s rest : Bytes) (h : (untilQuote s).2 = some rest) :
    rest.length < s.length := by
  fun_induction untilQuote s with
  | case1 => simp at h
  | case2 => simp_all
  | case3 b s ih =>
    have := ih h
    simp
    omega
  | case4 b s _ _ ih => exact Nat.lt_succ_of_lt (ih h)

theorem afterWord_length {word : List Char} {s rest : Bytes} (h : afterWord word s = .ok rest) :
    rest.length ≤ s.length := by
  fun_induction afterWord word s with
  | case1 => simp_all
  | case2 => simp at h
  | case3 _ _ _ _ _ ih => exact Nat.le_succ_of_le (ih h)
  | case4 => simp at h

theorem wordToken_length {t u : Token} {word : String} {s rest : Bytes}
    (h : wordToken t word s = (u, some rest)) : rest.length ≤ s.length := by
  unfold wordToken at h
  split at h
  · next e =>
    simp at h
    exact h.2 ▸ afterWord_length e
  · simp at h

theorem afterDigits_length (s : Bytes) : (afterDigits s).length ≤ s.length :=
  (List.dropWhile_sublist _).length_le

theorem readExponent_length {s rest : Bytes} {e : Bool × List Nat}
    (h : readExponent s = .ok (e, rest)) : rest.length ≤ s.length := by
  simp only [readExponent] at h
  split at h <;> split at h <;> simp at h
  all_goals exact h.2 ▸ Nat.le_trans (afterDigits_length _) (by simp)

theorem readExponent?_length {s rest : Bytes} {e : Option (Bool × List Nat)}
    (h : readExponent? s = .ok (e, rest)) : rest.length ≤ s.length := by
  unfold readExponent? at h
  split at h
  · obtain ⟨⟨_, _⟩, e, h⟩ := map_eq_ok.1 h
    simp at h
    exact Nat.le_succ_of_le (readExponent_length (h.2 ▸ e))
  · obtain ⟨⟨_, _⟩, e, h⟩ := map_eq_ok.1 h
    simp at h
    exact Nat.le_succ_of_le (readExponent_length (h.2 ▸ e))
  · simp at h
    simp [h.2]

theorem readFraction?_length {s rest : Bytes} {ds : List Nat}
    (h : readFraction? s = .ok (ds, rest)) : rest.length ≤ s.length := by
  unfold readFraction? at h
  split at h
  · split at h <;> simp at h
    exact h.2 ▸ Nat.le_succ_of_le (afterDigits_length _)
  · simp at h
    simp [h.2]

theorem afterDigits_length_lt {s : Bytes} (h : digits s ≠ []) :
    (afterDigits s).length < s.length := by
  cases s with
  | nil => simp [digits] at h
  | cons b s =>
    cases e : isDigit b
    · simp [digits, e] at h
    · simpa [afterDigits, e, Nat.lt_succ_iff] using afterDigits_length s

theorem readNumeral_length {negative : Bool} {s rest : Bytes} {n : Numeral}
    (h : readNumeral negative s = .ok (n, rest)) : rest.length < s.length := by
  simp only [readNumeral] at h
  split at h
  · simp at h
  · next hd =>
    split at h
    · simp at h
    · obtain ⟨⟨_, _⟩, hf, h⟩ := bind_eq_ok.1 h
      obtain ⟨⟨_, _⟩, he, h⟩ := bind_eq_ok.1 h
      obtain ⟨_, rfl⟩ := Prod.mk.injEq .. ▸ pure_eq_ok.1 h
      have := readFraction?_length hf
      have := readExponent?_length he
      have := afterDigits_length_lt (s := s) (by simpa using hd)
      simp only at *
      omega

theorem numberToken_length {negative : Bool} {s rest : Bytes} {t : Token}
    (h : numberToken negative s = (t, some rest)) : rest.length < s.length := by
  unfold numberToken at h
  split at h
  · next e =>
    simp at h
    exact readNumeral_length (h.2 ▸ e)
  · simp at h

theorem nextToken_length {b : UInt8} {s rest : Bytes} {t : Token}
    (h : nextToken b s = (t, some rest)) : rest.length ≤ s.length := by
  unfold nextToken at h
  split at h
  any_goals (simp at h; simp [h.2])
  · simp only [stringToken, Prod.mk.injEq] at h
    exact Nat.le_of_lt (untilQuote_length _ _ h.2)
  · exact Nat.le_of_lt (numberToken_length h)
  · exact wordToken_length h
  · exact wordToken_length h
  · exact wordToken_length h
  · split at h
    · exact Nat.le_of_lt_succ (numberToken_length h)
    · simp at h

/-! ### Texts -/

/-- The tokens of a text, blanks between them left out. -/
def tokens : Bytes → List Token
  | [] => []
  | b :: s =>
    if isBlank b then tokens s
    else
      match _h : nextToken b s with
      | (t, some rest) => t :: tokens rest
      | (t, none) => [t]
termination_by s => s.length
decreasing_by
  · simp
  · exact Nat.lt_succ_of_le (nextToken_length ‹_›)

end ScopeLexer.Json
