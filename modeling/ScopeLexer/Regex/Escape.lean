import ScopeLexer.Regex.Fault
import ScopeLexer.Regex.CharSet
import ScopeLexer.Outcome

/-! Characters written by number, by bytes or by a control letter after a backslash, and runs of
digits. A reader gives a number, which need not be that of a character, and what it leaves of the
text, which is never longer than what it was given. -/

namespace ScopeLexer.Regex

def digitValue (c : Char) : Nat :=
  if c.isDigit then c.toNat - '0'.toNat
  else if 'a' ≤ c ∧ c ≤ 'f' then c.toNat - 'a'.toNat + 10
  else c.toNat - 'A'.toNat + 10

def valueOf (base : Nat) (ds : List Char) : Nat := ds.foldl (fun n d => base * n + digitValue d) 0

def isOctal (c : Char) : Bool := '0' ≤ c && c ≤ '7'

/-- At most `most` leading characters that satisfy `p`, and the rest. -/
def takeUpTo (p : Char → Bool) : Nat → List Char → List Char × List Char
  | 0, s => ([], s)
  | _, [] => ([], [])
  | most + 1, c :: s =>
    if p c then
      let (ds, rest) := takeUpTo p most s
      (c :: ds, rest)
    else ([], c :: s)

theorem takeUpTo_length (p : Char → Bool) (most : Nat) (s : List Char) :
    (takeUpTo p most s).1.length + (takeUpTo p most s).2.length = s.length := by
  fun_induction takeUpTo p most s <;> simp_all
  omega

theorem takeUpTo_length_le (p : Char → Bool) (most : Nat) (s : List Char) :
    (takeUpTo p most s).2.length ≤ s.length := by
  have := takeUpTo_length p most s
  omega

/-! ### Control characters -/

/-- A control letter stands for its control character and anything else for itself. -/
def controlCharacter : Char → Char
  | 'n' => '\n'
  | 't' => '\t'
  | 'r' => '\r'
  | 'f' => '\x0c'
  | 'v' => '\x0b'
  | 'a' => '\x07'
  | 'b' => '\x08'
  | 'e' => '\x1b'
  | c => c

/-- The number spelled after a backslash by a letter, perhaps with the control key or the meta key
held down. -/
def keyed : List Char → Except Fault (Nat × List Char)
  | [] => .error .loneEscape
  | ['M'] | ['M', '-'] => .error .unfinishedMeta
  | 'M' :: '-' :: '\\' :: s => (keyed s).map fun (n, rest) => (n % 256 ||| 0x80, rest)
  | 'M' :: '-' :: c :: s => .ok (c.toNat % 256 ||| 0x80, s)
  | 'M' :: _ => .error .badMeta
  | ['C'] | ['C', '-'] | ['c'] => .error .unfinishedControl
  | 'C' :: '-' :: '?' :: s | 'c' :: '?' :: s => .ok (0x7F, s)
  | 'C' :: '-' :: '\\' :: s | 'c' :: '\\' :: s =>
    (keyed s).map fun (n, rest) => (n &&& 0x9F, rest)
  | 'C' :: '-' :: c :: s => .ok (c.toNat &&& 0x9F, s)
  | 'C' :: _ => .error .badControl
  | 'c' :: c :: s => .ok (c.toNat &&& 0x9F, s)
  | c :: s => .ok ((controlCharacter c).toNat, s)

theorem keyed_length {s rest : List Char} {n : Nat} (h : keyed s = .ok (n, rest)) :
    rest.length < s.length := by
  fun_induction keyed s generalizing n with
  | case4 s ih | case12 s ih | case13 s ih =>
    obtain ⟨⟨_, _⟩, e, h⟩ := map_eq_ok.1 h
    have := ih ((Prod.mk.inj h).2 ▸ e)
    simp
    omega
  | _ => grind

/-! ### Bytes -/

/-- Bytes that no character starts with have numbers of their own, from this one on. -/
def strayNumber : Nat := 0x100000000

/-- A byte written in hexadecimal or octal digits; in a base of the caller's choice, or in any. -/
def byte? (base : Option Nat) : List Char → Option (Nat × List Char)
  | '\\' :: 'x' :: s =>
    if s.head? = some '\x7b' ∨ base = some 8 then none
    else some (valueOf 16 (takeUpTo Unicode.isHexDigit 2 s).1, (takeUpTo Unicode.isHexDigit 2 s).2)
  | '\\' :: c :: s =>
    if !isOctal c ∨ base = some 16 then none
    else some (valueOf 8 (c :: (takeUpTo isOctal 2 s).1) % 256, (takeUpTo isOctal 2 s).2)
  | _ => none

/-- Reads `count` further bytes. -/
def moreBytes (base : Option Nat) : Nat → List Char → Except Fault (List Nat × List Char)
  | 0, s => .ok ([], s)
  | count + 1, s =>
    match byte? base s with
    | some (b, rest) => (moreBytes base count rest).map fun (bs, rest) => (b :: bs, rest)
    | none => .error .shortByteSequence

theorem byte?_length {base : Option Nat} {s rest : List Char} {b : Nat}
    (h : byte? base s = some (b, rest)) : rest.length ≤ s.length := by
  unfold byte? at h
  split at h
  · next s =>
    split at h <;> simp at h
    exact h.2 ▸ Nat.le_trans (takeUpTo_length_le _ _ _) (Nat.le_add_right _ 2)
  · next c s _ =>
    split at h <;> simp at h
    exact h.2 ▸ Nat.le_trans (takeUpTo_length_le _ _ _) (Nat.le_add_right _ 2)
  · simp at h

theorem moreBytes_length {base : Option Nat} {count : Nat} {s rest : List Char} {bs : List Nat}
    (h : moreBytes base count s = .ok (bs, rest)) : rest.length ≤ s.length := by
  fun_induction moreBytes base count s generalizing bs with
  | case1 => simp_all
  | case2 count s b mid e ih =>
    obtain ⟨⟨_, _⟩, e', h⟩ := map_eq_ok.1 h
    exact Nat.le_trans (ih ((Prod.mk.inj h).2 ▸ e')) (byte?_length e)
  | case3 => simp at h

/-- How many bytes a character has whose first byte this is. -/
def bytesFrom (lead : Nat) : Nat :=
  if lead < 0xC2 then 1 else if lead < 0xE0 then 2 else if lead < 0xF0 then 3
  else if lead < 0xF5 then 4 else 1

def continues (b : Nat) : Bool := 0x80 ≤ b && b < 0xC0

/-- The bits of the first of `count` bytes. -/
def leadBits (count lead : Nat) : Nat :=
  if count = 1 then lead else if count = 2 then lead - 0xC0 else if count = 3 then lead - 0xE0
  else lead - 0xF0

/-- The least number that takes `count` bytes. -/
def leastOf (count : Nat) : Nat :=
  if count = 1 then 0 else if count = 2 then 0x80 else if count = 3 then 0x800 else 0x10000

/-- The number that bytes spell: that of a character if they are the encoding of one. -/
def numberOfBytes (lead : Nat) (more : List Nat) : Nat :=
  let n := more.foldl (fun n b => n * 64 + (b - 0x80)) (leadBits (more.length + 1) lead)
  if more.isEmpty ∧ 0x80 ≤ lead then strayNumber + lead
  else if n < leastOf (more.length + 1) then strayNumber
  else n

/-- The number spelled by a first byte and those that follow it. A byte that only continues a
character stands alone where all bytes are in one base. -/
def numberFrom (base : Option Nat) (lead : Nat) (s : List Char) :
    Except Fault (Nat × List Char) :=
  (moreBytes base (bytesFrom lead - 1) s).bind fun (more, rest) =>
    if base.isNone && continues lead || !more.all continues then .error .badCodePoint
    else .ok (numberOfBytes lead more, rest)

theorem numberFrom_length {base : Option Nat} {lead n : Nat} {s rest : List Char}
    (h : numberFrom base lead s = .ok (n, rest)) : rest.length ≤ s.length := by
  obtain ⟨⟨more, mid⟩, e, h⟩ := bind_eq_ok.1 h
  by_cases hc : (base.isNone && continues lead || !more.all continues) = true
  · simp [hc] at h
  · simp only [hc, Bool.false_eq_true, if_false, Except.ok.injEq, Prod.mk.injEq] at h
    exact h.2 ▸ moreBytes_length e

/-! ### Numbers in braces -/

/-- What separates numbers in braces. -/
def divides (c : Char) : Bool := c = ' ' || c = '\n'

/-- Numbers with dividers before them follow up to a closing brace; `seen` if there was one. -/
def moreNumbers (isDigit : Char → Bool) : (seen inside : Bool) → List Char → Bool
  | seen, _, '\x7d' :: _ => seen
  | seen, inside, c :: s =>
    if divides c then moreNumbers isDigit seen false s
    else isDigit c && (inside || s.head?.isSome) && moreNumbers isDigit true true s
  | _, _, [] => false

/-- Numbers in braces after a letter. Several of them read like the first one followed by the
letter with the others; without any digits the letter stands for itself. -/
def braced (letter : Char) (base most : Nat) (isDigit : Char → Bool) (s : List Char) :
    Except Fault (Nat × List Char) :=
  match takeUpTo isDigit most s with
  | ([], _) => .ok (letter.toNat, '\x7b' :: s)
  | (_, []) => .error .badCodePoint
  | (ds, '\x7d' :: rest) => .ok (valueOf base ds, rest)
  | (ds, c :: rest) =>
    if isDigit c then .error .codePointTooLong
    else if divides c && moreNumbers isDigit false false rest then
      .ok (valueOf base ds, '\\' :: letter :: '\x7b' :: rest.dropWhile divides)
    else .error .badCodePoint

theorem braced_length {letter : Char} {base most n : Nat} {isDigit : Char → Bool}
    {s rest : List Char} (h : braced letter base most isDigit s = .ok (n, rest)) :
    rest.length ≤ s.length + 1 := by
  have hs := takeUpTo_length isDigit most s
  unfold braced at h
  split at h
  · simp at h
    simp [← h.2]
  · simp at h
  · next e =>
    rw [e] at hs
    simp at h hs
    rw [← h.2]
    omega
  · next ds c t hne _ e =>
    rw [e] at hs
    have ht := (List.dropWhile_sublist (l := t) divides).length_le
    have := List.length_pos_iff.2 hne
    split at h
    · simp at h
    · split at h <;> simp at h
      simp at hs
      rw [← h.2]
      simp
      omega

/-! ### Everything -/

/-- `\u` followed by exactly four digits. -/
def hexFour (s : List Char) : Except Fault (Nat × List Char) :=
  if (takeUpTo Unicode.isHexDigit 4 s).1.length = 4 then
    .ok (valueOf 16 (takeUpTo Unicode.isHexDigit 4 s).1, (takeUpTo Unicode.isHexDigit 4 s).2)
  else .error .badCodePoint

/-- At most three octal digits, a byte. Inside brackets all bytes of a character are written in one
base. -/
def octalByte (inBrackets : Bool) (c : Char) (s : List Char) : Except Fault (Nat × List Char) :=
  if valueOf 8 (c :: (takeUpTo isOctal 2 s).1) < 0x100 then
    numberFrom (if inBrackets then some 8 else none)
      (valueOf 8 (c :: (takeUpTo isOctal 2 s).1)) (takeUpTo isOctal 2 s).2
  else .error .numberTooLarge

/-- `\x` followed by at most two digits, a byte. -/
def hexByte (inBrackets : Bool) (s : List Char) : Except Fault (Nat × List Char) :=
  numberFrom (if inBrackets then some 16 else none)
    (valueOf 16 (takeUpTo Unicode.isHexDigit 2 s).1) (takeUpTo Unicode.isHexDigit 2 s).2

/-- The number that a backslash, `c` and the start of `s` stand for. -/
def escaped (inBrackets : Bool) (c : Char) (s : List Char) : Except Fault (Nat × List Char) :=
  if (c = 'x' ∨ c = 'o') ∧ s.head? = some '\x7b' then
    if c = 'x' then braced c 16 8 Unicode.isHexDigit s.tail else braced c 8 11 isOctal s.tail
  else if c = 'x' then hexByte inBrackets s
  else if c = 'u' then hexFour s
  else if isOctal c then octalByte inBrackets c s
  else keyed (c :: s)

theorem escaped_length {inBrackets : Bool} {c : Char} {n : Nat} {s rest : List Char}
    (h : escaped inBrackets c s = .ok (n, rest)) : rest.length ≤ s.length := by
  unfold escaped at h
  split at h
  · next hc =>
    obtain ⟨t, rfl⟩ := List.head?_eq_some_iff.1 hc.2
    split at h <;> exact braced_length h
  · split at h
    · exact Nat.le_trans (numberFrom_length h) (takeUpTo_length_le _ _ _)
    · split at h
      · unfold hexFour at h
        split at h <;> simp at h
        exact h.2 ▸ takeUpTo_length_le _ _ _
      · split at h
        · unfold octalByte at h
          split at h
          · exact Nat.le_trans (numberFrom_length h) (takeUpTo_length_le _ _ _)
          · simp at h
        · exact Nat.le_of_lt_succ (keyed_length h)

end ScopeLexer.Regex
