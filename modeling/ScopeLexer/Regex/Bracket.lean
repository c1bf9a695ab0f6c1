import ScopeLexer.Regex.Escape

/-! Bracket expressions. An open bracket keeps the operands of `&&` that are complete, the members
of the operand being read, and what the last item was, since that decides what a hyphen means. Inner
brackets are kept on a stack while they are open. -/

namespace ScopeLexer.Regex

/-- The last item of an open bracket. -/
inductive LastItem
  | start
  | value (n : Nat)
  | set
  | bound (first : Nat)
  | complete

/-- The place of a number in ranges; a stray byte counts like the character with its value. -/
def ordinal (n : Nat) : Nat := if strayNumber ≤ n then n - strayNumber else n

def isOneByte (n : Nat) : Bool := n < 0x80 || strayNumber ≤ n

/-- A range between two numbers. Between bytes it holds no character of several bytes. -/
def rangeOf (first last : Nat) : CharSet :=
  .range (ordinal first)
    (if isOneByte first && isOneByte last then min (ordinal last) 0x7F else ordinal last)

structure Bracket where
  negated : Bool
  done : Option CharSet
  members : CharSet
  slot : LastItem

namespace Bracket

def insert (b : Bracket) (s : CharSet) : Bracket := { b with members := .union b.members s }

/-- Takes a number in that might still have started a range. -/
def flush (b : Bracket) : Bracket :=
  match b.slot with
  | .value n => b.insert (.single n)
  | _ => b

/-- Takes in the character with this number. -/
def number (b : Bracket) (n : Nat) : Except Fault Bracket :=
  match b.slot with
  | .bound first =>
    if ordinal n < ordinal first then .error .reversedRange
    else .ok { b.insert (rangeOf first n) with slot := .complete }
  | _ => .ok { b.flush with slot := .value n }

def character (b : Bracket) (c : Char) : Except Fault Bracket := b.number c.toNat

def set (b : Bracket) (s : CharSet) : Except Fault Bracket :=
  match b.slot with
  | .bound _ => .error .classInRange
  | _ => .ok { b.flush.insert s with slot := .set }

/-- The members of all operands. -/
def total (b : Bracket) : CharSet :=
  match b.done with
  | some d => .inter d b.flush.members
  | none => b.flush.members

/-- Starts the next operand of `&&`. -/
def nextOperand (b : Bracket) : Bracket :=
  { b with done := some b.total, members := .empty, slot := .start }

/-- Takes an inner bracket in. -/
def nest (b inner : Bracket) : Bracket := b.insert (.negateIf inner.negated inner.total)

end Bracket

/-- What a hyphen cannot start a range before. -/
def endsOperand : List Char → Bool
  | ']' :: _ => true
  | '&' :: '&' :: _ => true
  | _ => false

/-- A hyphen starts a range only between two characters. -/
def Bracket.hyphen (b : Bracket) (s : List Char) : Except Fault Bracket :=
  match b.slot with
  | .value n => if endsOperand s then b.character '-' else .ok { b with slot := .bound n }
  | .set => if endsOperand s then b.character '-' else .error .openRange
  | _ => b.character '-'

/-- The classes that a single escaped letter names; which characters make words is for the caller
to say. -/
def shorthand? (word : CharSet) : Char → Option CharSet
  | 'w' => some word
  | 'W' => some (.compl word)
  | 'd' => some (.property .digit)
  | 'D' => some (.compl (.property .digit))
  | 's' => some (.property .space)
  | 'S' => some (.compl (.property .space))
  | 'h' => some (.property .xdigit)
  | 'H' => some (.compl (.property .xdigit))
  | _ => none

/-- Property names hold no brackets of groups, braces or bars. -/
def isNameCharacter (c : Char) : Bool := !(['(', ')', '\x7b', '|', '\x7d'].contains c)

/-- The rest of a property name after its opening brace, up to a closing one. -/
def propertyName (s : List Char) : Except Fault (Property × List Char) :=
  let name := String.ofList (s.takeWhile isNameCharacter)
  match s.dropWhile isNameCharacter with
  | '\x7d' :: rest =>
    match Property.named? name with
    | some p => .ok (p, rest)
    | none => .error (.unknownProperty name)
  | _ => .error .unclosedGroup

/-- Whether the text starts with a caret, and what follows it. -/
def caret : List Char → Bool × List Char
  | '^' :: s => (true, s)
  | s => (false, s)

/-- The set of a property, where `word` stands for the property of that name. -/
def Property.toSet (word : CharSet) : Property → CharSet
  | .word => word
  | p => .property p

/-- A property after `\p` or `\P` and its opening brace; a caret negates once more. -/
def propertyClass (word : CharSet) (negated : Bool) (s : List Char) :
    Except Fault (CharSet × List Char) :=
  (propertyName (caret s).2).map fun (p, rest) =>
    (.negateIf (negated != (caret s).1) (p.toSet word), rest)

/-- An escape inside brackets: a set, or the number of the character that it spells. -/
def bracketEscape (c : Char) (s : List Char) : Except Fault ((CharSet ⊕ Nat) × List Char) :=
  match shorthand? (.property .word) c with
  | some set => .ok (.inl set, s)
  | none =>
    if (c = 'p' ∨ c = 'P') ∧ s.head? = some '\x7b' then
      (propertyClass (.property .word) (c = 'P') s.tail).map fun (set, rest) => (.inl set, rest)
    else (escaped true c s).map fun (n, rest) => (.inr n, rest)

/-- Letters or a caret in front of letters, and then a colon and a bracket. -/
def closesName (s : List Char) : Bool :=
  match (caret s).2.span Property.alpha.holds with
  | (name, ':' :: ']' :: _) => (caret s).1 || !name.isEmpty
  | _ => false

/-- Whether an unknown name is closed by a colon and a bracket within its first characters. -/
def misnamed : Nat → List Char → Bool
  | _, ':' :: ']' :: _ => true
  | _, ':' :: _ => false
  | _, ']' :: _ => false
  | room + 1, _ :: s => misnamed room s
  | _, _ => false

/-- A named class after `[:`, unless no name of a class starts there. -/
def namedClass (s : List Char) : Except Fault (Option (CharSet × List Char)) :=
  match if (caret s).2.length < 7 then none
      else Property.bracketed.find? fun (name, _) => name.toList.isPrefixOf (caret s).2 with
  | some (name, p) =>
    match (caret s).2.drop name.length with
    | ':' :: ']' :: rest => .ok (some (.negateIf (caret s).1 (.property p), rest))
    | _ => .error .unknownBracket
  | none => if misnamed 20 (caret s).2 then .error .unknownBracket else .ok none

/-- Opens a bracket: a caret negates it, and a closing bracket stands for itself at the start if
another one follows. -/
def openBracket (s : List Char) : Except Fault (Bracket × List Char) :=
  match (caret s).2 with
  | ']' :: rest =>
    if rest.contains ']' then .ok (⟨(caret s).1, none, .empty, .value ']'.toNat⟩, rest)
    else .error .emptyClass
  | t => .ok (⟨(caret s).1, none, .empty, .start⟩, t)

theorem propertyName_length {s rest : List Char} {p : Property}
    (h : propertyName s = .ok (p, rest)) : rest.length ≤ s.length := by
  have hs := (List.dropWhile_sublist (l := s) isNameCharacter).length_le
  simp only [propertyName] at h
  split at h
  · next e =>
    split at h
    · simp at h
      rw [e, h.2] at hs
      exact Nat.le_trans (Nat.le_succ _) hs
    · simp at h
  · simp at h

theorem caret_length (s : List Char) : (caret s).2.length ≤ s.length := by
  unfold caret
  split <;> simp

theorem propertyClass_length {word set : CharSet} {negated : Bool} {s rest : List Char}
    (h : propertyClass word negated s = .ok (set, rest)) : rest.length ≤ s.length := by
  obtain ⟨⟨_, _⟩, e, h⟩ := map_eq_ok.1 h
  exact Nat.le_trans (propertyName_length ((Prod.mk.inj h).2 ▸ e)) (caret_length s)

theorem bracketEscape_length {c : Char} {s rest : List Char} {x : CharSet ⊕ Nat}
    (h : bracketEscape c s = .ok (x, rest)) : rest.length ≤ s.length := by
  unfold bracketEscape at h
  split at h
  · simp at h
    simp [h.2]
  · split at h <;> obtain ⟨⟨_, _⟩, e, h⟩ := map_eq_ok.1 h <;>
      obtain ⟨_, rfl⟩ := Prod.mk.injEq .. ▸ h
    · exact Nat.le_trans (propertyClass_length e) (by simp)
    · exact escaped_length e

theorem namedClass_length {s rest : List Char} {set : CharSet}
    (h : namedClass s = .ok (some (set, rest))) : rest.length ≤ s.length := by
  have hs := caret_length s
  unfold namedClass at h
  split at h
  · next name _ _ =>
    split at h
    · next e =>
      have := congrArg List.length e
      simp at this h
      rw [← h.2]
      omega
    · simp at h
  · split at h <;> simp at h

theorem openBracket_length {s rest : List Char} {b : Bracket}
    (h : openBracket s = .ok (b, rest)) : rest.length ≤ s.length := by
  have hs := caret_length s
  unfold openBracket at h
  split at h
  · next e =>
    rw [e] at hs
    split at h <;> simp at h
    exact h.2 ▸ Nat.le_trans (Nat.le_succ _) hs
  · simp at h
    exact h.2 ▸ hs

/-- What stands at the start of a text inside brackets; an inner bracket counts up to where its
first item starts. -/
inductive BracketItem
  | close
  | hyphen
  | both
  | inner (b : Bracket)
  | set (s : CharSet)
  | number (n : Nat)

/-- Reads one item inside brackets. -/
def bracketItem (c : Char) (s : List Char) : Except Fault (BracketItem × List Char) :=
  match c, s with
  | ']', s => .ok (.close, s)
  | '-', s => .ok (.hyphen, s)
  | '&', '&' :: rest => .ok (.both, rest)
  | '[', s =>
    if s.head? = some ':' ∧ closesName s.tail then
      (namedClass s.tail).map fun
        | some (set, rest) => (.set set, rest)
        | none => (.number '['.toNat, s)
    else (openBracket s).map fun (b, rest) => (.inner b, rest)
  | '\\', [] => .error .loneEscape
  | '\\', e :: t => (bracketEscape e t).map fun
    | (.inl set, rest) => (.set set, rest)
    | (.inr n, rest) => (.number n, rest)
  | c, s => .ok (.number c.toNat, s)

theorem bracketItem_length {c : Char} {s rest : List Char} {i : BracketItem}
    (h : bracketItem c s = .ok (i, rest)) : rest.length ≤ s.length := by
  unfold bracketItem at h
  split at h
  · simp at h; simp [h.2]
  · simp at h; simp [h.2]
  · simp at h; simp [h.2]
  · next s =>
    split at h
    · obtain ⟨x, e, h⟩ := map_eq_ok.1 h
      split at h <;> simp at h
      · exact Nat.le_trans (namedClass_length (h.2 ▸ e)) (by simp)
      · simp [h.2]
    · obtain ⟨⟨_, _⟩, e, h⟩ := map_eq_ok.1 h
      simp at h
      exact openBracket_length (h.2 ▸ e)
  · simp at h
  · obtain ⟨x, e, h⟩ := map_eq_ok.1 h
    split at h <;> simp at h <;> exact Nat.le_succ_of_le (bracketEscape_length (h.2 ▸ e))
  · simp at h; simp [h.2]

/-- What an item does to the innermost bracket and those around it, before the text `ahead`. The
outermost bracket stays when it is closed. -/
def BracketItem.apply (ahead : List Char) (b : Bracket) (outer : List Bracket) :
    BracketItem → Except Fault (Bracket × List Bracket)
  | .close =>
    match outer with
    | [] => .ok (b, [])
    | parent :: outer => .ok (parent.nest b, outer)
  | .hyphen => (b.hyphen ahead).map (·, outer)
  | .both => .ok (b.nextOperand, outer)
  | .inner i => .ok (i, { b.flush with slot := .complete } :: outer)
  | .set s => (b.set s).map (·, outer)
  | .number n => (b.number n).map (·, outer)

/-- Reads on in the bracket `b` and the brackets around it until the outermost one closes. -/
def readBracket (b : Bracket) (outer : List Bracket) :
    List Char → Except Fault (Bracket × List Char)
  | [] => .error .unclosedClass
  | c :: s =>
    match _h : bracketItem c s with
    | .error e => .error e
    | .ok (i, rest) =>
      match i, outer with
      | .close, [] => .ok (b, rest)
      | i, outer =>
        match i.apply rest b outer with
        | .error e => .error e
        | .ok (b, outer) => readBracket b outer rest
termination_by s => s.length
decreasing_by exact Nat.lt_succ_of_le (bracketItem_length ‹_›)

theorem readBracket_length {b b' : Bracket} {outer : List Bracket} {s rest : List Char}
    (h : readBracket b outer s = .ok (b', rest)) : rest.length ≤ s.length := by
  fun_induction readBracket b outer s with
  | case1 => simp at h
  | case2 => simp at h
  | case3 b c s rest' e =>
    simp at h
    exact Nat.le_succ_of_le (h.2 ▸ bracketItem_length e)
  | case4 => simp at h
  | case5 b outer c s i rest' e _ _ _ _ _ ih =>
    exact Nat.le_succ_of_le (Nat.le_trans (ih h) (bracketItem_length e))

/-- The class after an opening bracket. -/
def bracketClass (s : List Char) : Except Fault (Bracket × List Char) := do
  let (b, rest) ← openBracket s
  readBracket b [] rest

theorem bracketClass_length {b : Bracket} {s rest : List Char}
    (h : bracketClass s = .ok (b, rest)) : rest.length ≤ s.length := by
  obtain ⟨_, e, h⟩ := bind_eq_ok.1 h
  exact Nat.le_trans (readBracket_length h) (openBracket_length e)

end ScopeLexer.Regex
