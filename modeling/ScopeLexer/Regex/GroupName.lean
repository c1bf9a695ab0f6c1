import ScopeLexer.Regex.Escape
import ScopeLexer.Regex.Pattern

/-! Group names between angle brackets or quotes. A definition starts like a word; a reference may
also be a number, which counts from the groups opened so far if it is signed, and a back-reference
may add a level. -/

namespace ScopeLexer.Regex

/-- A reference as written; a signed number counts back from or on from the groups so far. -/
inductive WrittenName
  | word (n : String)
  | number (n : Nat)
  | back (n : Nat)
  | onward (n : Nat)
  deriving DecidableEq

/-- The number that a reference means after `count` groups were opened. -/
def WrittenName.number? (count : Nat) : WrittenName → Option Int
  | word _ => none
  | number n => some n
  | back n => some (count + 1 - n)
  | onward n => some (count + n)

/-- The largest number in a name. -/
def largestNumber : Nat := 0x7FFFFFFF

def isSign (c : Char) : Bool := c == '-' || c == '+'

def endsName (close c : Char) : Bool := c == close || c == ')'

/-- A name of the digits `ds`, with the sign `c` if it is one. -/
def numeral (c : Char) (ds text : List Char) : Except Fault WrittenName :=
  if largestNumber < valueOf 10 ds then .error .numberTooLarge
  else if !isSign c then .ok (.number (valueOf 10 ds))
  else if valueOf 10 ds = 0 then .error (.badName (String.ofList text))
  else .ok (if c = '-' then .back (valueOf 10 ds) else .onward (valueOf 10 ds))

/-! ### Definitions and calls -/

/-- The text that the fault of a bad first character shows. -/
def blamed (close c : Char) (t : List Char) : String :=
  String.ofList <| c ::
    if (t.dropWhile (!endsName close ·)).length ≤ 1 then t else t.takeWhile (!endsName close ·)

/-- The text of a name up to its closing character. The fault of a name that does not end there
leaves out the character at which that shows, if it is not the first. -/
def closedName (close c : Char) (t : List Char) : Except Fault (List Char × List Char) :=
  let text := c :: t.takeWhile (!endsName close ·)
  match t.dropWhile (!endsName close ·) with
  | d :: rest => if d = close then .ok (text, rest) else .error (.badName (String.ofList text))
  | [] => .error (.badName (String.ofList (if t.isEmpty then text else text.dropLast)))

/-- The name of a new group. Only its first character has to be that of a word. -/
def definedName (close : Char) (s : List Char) : Except Fault (String × List Char) :=
  match s with
  | [] => .error .emptyName
  | c :: t =>
    if c = close then .error .emptyName
    else if c.isDigit || isSign c then .error (.badName (blamed close c t))
    else if !isWordCharacter c then .error (.badNameCharacter (blamed close c t))
    else (closedName close c t).map fun (text, rest) => (String.ofList text, rest)

/-- A text with a digit or a sign in front is a number if nothing but digits follows; anything else
is a word. -/
def callee (text : List Char) : Except Fault WrittenName :=
  match text with
  | [] => .error .emptyName
  | c :: t =>
    let ds := if isSign c then t else text
    if ds.isEmpty || !ds.all Char.isDigit then .ok (.word (String.ofList text))
    else numeral c ds text

/-- The group of a call, with its spelling. -/
def calledName (close : Char) (s : List Char) :
    Except Fault ((WrittenName × String) × List Char) :=
  match s with
  | [] => .error .emptyName
  | c :: t =>
    if c = close then .error .emptyName
    else if !isSign c && !isWordCharacter c then .error (.badNameCharacter (blamed close c t))
    else (closedName close c t).bind fun (text, rest) =>
      (callee text).map fun n => ((n, String.ofList text), rest)

/-! ### Back-references -/

/-- What is wrong with the characters of a name, given whether something ends it. -/
def nameFault? (c : Char) (t : List Char) (ended : Bool) : Option (String → Fault) :=
  if c.isDigit || isSign c then
    match t.dropWhile Char.isDigit with
    | _ :: rest =>
      some (if rest.all isWordCharacter then Fault.badName else Fault.badNameCharacter)
    | [] => if isSign c ∧ t.isEmpty ∧ ended then some Fault.badName else none
  else if (c :: t).all isWordCharacter then none
  else some Fault.badNameCharacter

/-- A level, a number after a sign up to the closing character. -/
def level (close sign : Char) (s : List Char) (fault : Fault) :
    Except Fault (Int × List Char) :=
  let n : Nat := valueOf 10 (s.takeWhile Char.isDigit)
  if (s.takeWhile Char.isDigit).isEmpty then .error fault
  else if largestNumber < n then .error .numberTooLarge
  else
    match s.dropWhile Char.isDigit with
    | d :: rest => if d = close then .ok (if sign = '-' then -n else n, rest) else .error fault
    | [] => .error fault

def endsReferred (close d : Char) : Bool := endsName close d || isSign d

/-- What follows the characters of a name in the text `s`: its closing character, or a sign with a
level. `seen` is what the fault of a name shows that breaks off at the sign. -/
def referredLevel (close : Char) (s : List Char) (seen : String) :
    List Char → Except Fault (Option Int × List Char)
  | [] => .error (.badName (String.ofList s))
  | d :: rest =>
    if d = close then .ok (none, rest)
    else if d = ')' then .error (.badName (String.ofList s))
    else if rest.isEmpty then .error (.badNameCharacter seen)
    else (level close d rest (.badName (String.ofList s))).map fun (l, rest) => (some l, rest)

/-- The group of a back-reference and its level. A sign inside the name starts the level. -/
def referredName (close : Char) (s : List Char) :
    Except Fault ((WrittenName × Option Int) × List Char) :=
  match s with
  | [] => .error .emptyName
  | c :: t =>
    let text := c :: t.takeWhile (!endsReferred close ·)
    let after := t.dropWhile (!endsReferred close ·)
    let seen := String.ofList (if after.isEmpty && !t.isEmpty then text.dropLast else text)
    let name : Except Fault WrittenName :=
      if c.isDigit || isSign c then numeral c (if isSign c then text.tail else text) text
      else .ok (.word (String.ofList text))
    if c = close then .error .emptyName
    else
      match nameFault? c text.tail (!after.isEmpty) with
      | some f => .error (f seen)
      | none =>
        if t.isEmpty && isSign c then .error (.badNameCharacter seen)
        else (referredLevel close s seen after).bind fun (l, rest) =>
          name.map fun n => ((n, l), rest)

/-! ### Lengths -/

theorem closedName_length {close c : Char} {t text rest : List Char}
    (h : closedName close c t = .ok (text, rest)) : rest.length ≤ t.length := by
  have ht := (List.dropWhile_sublist (l := t) (!endsName close ·)).length_le
  unfold closedName at h
  split at h
  · next e =>
    rw [e] at ht
    split at h <;> simp at h
    exact h.2 ▸ Nat.le_of_succ_le ht
  · simp at h

theorem definedName_length {close : Char} {s rest : List Char} {n : String}
    (h : definedName close s = .ok (n, rest)) : rest.length ≤ s.length := by
  unfold definedName at h
  split at h
  · simp at h
  · repeat' split at h
    all_goals first
      | obtain ⟨⟨_, _⟩, e, h⟩ := map_eq_ok.1 h
        exact Nat.le_succ_of_le (closedName_length ((Prod.mk.inj h).2 ▸ e))
      | simp at h

theorem calledName_length {close : Char} {s rest : List Char} {n : WrittenName × String}
    (h : calledName close s = .ok (n, rest)) : rest.length ≤ s.length := by
  unfold calledName at h
  split at h
  · simp at h
  · repeat' split at h
    all_goals first
      | obtain ⟨⟨_, _⟩, e, h⟩ := bind_eq_ok.1 h
        obtain ⟨_, _, h⟩ := map_eq_ok.1 h
        exact Nat.le_succ_of_le (closedName_length ((Prod.mk.inj h).2 ▸ e))
      | simp at h

theorem level_length {close sign : Char} {s rest : List Char} {f : Fault} {l : Int}
    (h : level close sign s f = .ok (l, rest)) : rest.length ≤ s.length := by
  have hs := (List.dropWhile_sublist (l := s) Char.isDigit).length_le
  simp only [level] at h
  split at h
  · simp at h
  · split at h
    · simp at h
    · split at h
      · next e =>
        rw [e] at hs
        split at h <;> simp at h
        exact h.2 ▸ Nat.le_of_succ_le hs
      · simp at h

theorem referredLevel_length {close : Char} {s after rest : List Char} {seen : String}
    {l : Option Int} (h : referredLevel close s seen after = .ok (l, rest)) :
    rest.length ≤ after.length := by
  unfold referredLevel at h
  split at h
  · simp at h
  · repeat' split at h
    all_goals first
      | obtain ⟨⟨_, _⟩, e, h⟩ := map_eq_ok.1 h
        exact Nat.le_succ_of_le (level_length ((Prod.mk.inj h).2 ▸ e))
      | simp at h
    simp [h.2]

theorem referredName_length {close : Char} {s rest : List Char} {n : WrittenName × Option Int}
    (h : referredName close s = .ok (n, rest)) : rest.length ≤ s.length := by
  unfold referredName at h
  split at h
  · simp at h
  · next c t =>
    have ht := (List.dropWhile_sublist (l := t) (!endsReferred close ·)).length_le
    by_cases hc : c = close
    · simp [hc] at h
    · simp only [hc, if_false] at h
      split at h
      · simp at h
      · split at h
        · simp at h
        · obtain ⟨⟨_, _⟩, e, h⟩ := bind_eq_ok.1 h
          obtain ⟨_, _, h⟩ := map_eq_ok.1 h
          obtain ⟨_, rfl⟩ := Prod.mk.inj h
          exact Nat.le_succ_of_le (Nat.le_trans (referredLevel_length e) ht)

end ScopeLexer.Regex
