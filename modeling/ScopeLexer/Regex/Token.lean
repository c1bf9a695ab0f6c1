import ScopeLexer.Regex.Bracket
import ScopeLexer.Regex.GroupName

/-! Tokens of a pattern. What a character means depends on the flags in force and, for what refers
to groups, on the groups opened so far; both are given to the reader.

The syntax is that of Oniguruma but for what is refused as `unsupported`: absence operators,
conditions other than on groups, the options that keep classes to ASCII or choose text segments, the
escapes for text segments, and callouts by name other than `FAIL` or with a tag. Of the properties
those of general categories, of scripts and of the classes in brackets are known, with a few more;
those of blocks, ages and emoji are not. -/

namespace ScopeLexer.Regex

/-- Flags in force: `foldCase` ignores case, `dotNewline` lets a dot match a line feed, `extended`
skips blanks and comments. `behind` holds inside a look-behind. -/
structure Flags where
  foldCase : Bool
  dotNewline : Bool
  extended : Bool
  behind : Bool
  deriving DecidableEq, Repr

/-- How a group that keeps no text is used. -/
inductive Opening
  | plain
  | atomic
  | ahead (negated : Bool)
  | behind (negated : Bool)
  deriving DecidableEq, Repr

inductive Greed
  | greedy
  | lazy
  | possessive
  deriving DecidableEq, Repr

/-- `flagged` sets flags inside a group and `setting` up to the end of the group around it. `choice`
opens a group whose first branch is for the case that one of some groups has a text. -/
inductive Token
  | skipped
  | piece (p : Pattern Reference)
  | loop (least : Nat) (most : Option Nat) (greed : Greed)
  | capture (name : Option String)
  | opening (o : Opening)
  | choice (groups : List Nat) (level : Option Int)
  | flagged (f : Flags)
  | setting (f : Flags)
  | bar
  | close

abbrev TokenResult := Except Fault (Token × List Char)

namespace Token

def set (s : CharSet) : Token := piece (.atom (.set s))

def check (a : Assertion) : Token := piece (.assertion a)

/-- A character that stands for itself. -/
def literal (f : Flags) (c : Char) : Token :=
  piece (.atom (if f.foldCase then .folded [c] (!f.behind) else .chars [c]))

/-- The character with a number. A number of bytes that no text holds takes nothing. -/
def numberLiteral (f : Flags) (n : Nat) : Except Fault Token :=
  if n.isValidChar then .ok (literal f (Char.ofNat n))
  else if n ≤ 0x10FFFF ∨ strayNumber ≤ n + 2 then .ok (set .empty)
  else .error .codePointTooLarge

/-- A carriage return with a line feed, or one character that ends a line or paragraph. -/
def newlineSequence : Pattern Reference :=
  .atomic (.alt (.atom (.chars ['\r', '\n']))
    (.atom (.set (.union (.range 0x0A 0x0D) (.union (.single 0x85) (.range 0x2028 0x2029))))))

/-! ### Loops -/

def loopSuffix (least : Nat) (most : Option Nat) : List Char → Token × List Char
  | '?' :: s => (loop least most .lazy, s)
  | '+' :: s => (loop least most .possessive, s)
  | s => (loop least most .greedy, s)

/-- Bounds in braces are never possessive. -/
def lazySuffix (least : Nat) (most : Option Nat) : List Char → Token × List Char
  | '?' :: s => (loop least most .lazy, s)
  | s => (loop least most .greedy, s)

/-- Bounds after an opening brace, `none` if the text there states none. One number is a fixed
count; bounds in the wrong order are swapped and never given back. -/
def bounds (s : List Char) : Except Fault (Option (Token × List Char)) :=
  let low := s.takeWhile Char.isDigit
  if 100000 < valueOf 10 low then .error .repeatTooLarge
  else
    match s.dropWhile Char.isDigit with
    | '\x7d' :: rest =>
      if low.isEmpty then .ok none
      else .ok (some (loop (valueOf 10 low) (some (valueOf 10 low)) .greedy, rest))
    | ',' :: t =>
      let high := t.takeWhile Char.isDigit
      if 100000 < valueOf 10 high then .error .repeatTooLarge
      else if low.isEmpty ∧ high.isEmpty then .ok none
      else
        match t.dropWhile Char.isDigit with
        | '\x7d' :: rest =>
          if high.isEmpty then .ok (some (lazySuffix (valueOf 10 low) none rest))
          else if valueOf 10 high < valueOf 10 low then
            .ok (some (loop (valueOf 10 high) (some (valueOf 10 low)) .possessive, rest))
          else .ok (some (lazySuffix (valueOf 10 low) (some (valueOf 10 high)) rest))
        | _ => .ok none
    | _ => .ok none

theorem loopSuffix_length (least : Nat) (most : Option Nat) (s : List Char) :
    (loopSuffix least most s).2.length ≤ s.length := by
  unfold loopSuffix
  split <;> simp

theorem lazySuffix_length (least : Nat) (most : Option Nat) (s : List Char) :
    (lazySuffix least most s).2.length ≤ s.length := by
  unfold lazySuffix
  split <;> simp

theorem bounds_length {s rest : List Char} {t : Token} (h : bounds s = .ok (some (t, rest))) :
    rest.length ≤ s.length := by
  have hs : (s.dropWhile Char.isDigit).length ≤ s.length := (List.dropWhile_sublist _).length_le
  simp only [bounds] at h
  split at h
  · simp at h
  · split at h
    · next e =>
      split at h <;> simp at h
      rw [e, h.2] at hs
      exact Nat.le_trans (Nat.le_succ _) hs
    · next u e =>
      have hu : (u.dropWhile Char.isDigit).length ≤ u.length := (List.dropWhile_sublist _).length_le
      rw [e] at hs
      split at h
      · simp at h
      · split at h
        · simp at h
        · split at h
          · next r e' =>
            rw [e'] at hu
            have key : rest.length ≤ r.length → rest.length ≤ s.length := by
              simp at hs hu ⊢
              omega
            have suffix := fun m => lazySuffix_length (valueOf 10 (s.takeWhile Char.isDigit)) m r
            split at h
            · have := suffix none
              simp at h
              rw [h] at this
              exact key this
            · split at h <;> simp at h
              · exact key (by simp [h.2])
              · have := suffix (some (valueOf 10 (u.takeWhile Char.isDigit)))
                rw [h] at this
                exact key this
          · simp at h
    · simp at h

/-! ### Groups -/

/-- What follows a comment group. -/
def afterComment : List Char → Except Fault (List Char)
  | ')' :: s => .ok s
  | ['\\'] => .error .unfinishedGroup
  | '\\' :: _ :: s => afterComment s
  | _ :: s => afterComment s
  | [] => .error .unfinishedGroup

theorem afterComment_length {s rest : List Char} (h : afterComment s = .ok rest) :
    rest.length ≤ s.length := by
  fun_induction afterComment s with
  | case1 => simp_all
  | case2 => simp at h
  | case3 _ _ ih =>
    have := ih h
    simp
    omega
  | case4 _ _ _ _ _ ih => exact Nat.le_succ_of_le (ih h)
  | case5 => simp at h

/-- What one flag letter does, `on` or off. -/
def setFlag (f : Flags) (on : Bool) : Char → Option Flags
  | 'i' => some { f with foldCase := on }
  | 'm' => some { f with dotNewline := on }
  | 'x' => some { f with extended := on }
  | _ => none

/-- The fault of a letter that is no flag. -/
def flagFault (c : Char) : Fault :=
  if ['W', 'D', 'S', 'P', 'y'].contains c then .unsupported else .unknownOption

/-- Flag letters up to a colon, which opens a group, or a closing parenthesis. -/
def flagLetters (f : Flags) (on : Bool) : List Char → TokenResult
  | [] => .error .unfinishedGroup
  | ')' :: s => .ok (setting f, s)
  | ':' :: s => .ok (flagged f, s)
  | '-' :: s => flagLetters f false s
  | c :: s =>
    match setFlag f on c with
    | some f => flagLetters f on s
    | none => .error (flagFault c)

theorem flagLetters_length {f : Flags} {on : Bool} {s rest : List Char} {t : Token}
    (h : flagLetters f on s = .ok (t, rest)) : rest.length ≤ s.length := by
  fun_induction flagLetters f on s with
  | case1 => simp at h
  | case2 => simp_all
  | case3 => simp_all
  | case4 _ _ _ ih => exact Nat.le_succ_of_le (ih h)
  | case5 _ _ _ _ _ _ _ _ _ ih => exact Nat.le_succ_of_le (ih h)
  | case6 => simp at h

/-- What follows the first place of a text. -/
def after? (place : List Char) : List Char → Option (List Char)
  | [] => none
  | c :: s =>
    if place.isPrefixOf (c :: s) then some ((c :: s).drop place.length) else after? place s

/-- A callout with its contents in braces. Nobody listens to it. -/
def contents (s : List Char) : TokenResult :=
  let opened := s.takeWhile (· = '\x7b')
  match after? (List.replicate (opened.length + 1) '\x7d') (s.drop opened.length) with
  | some (')' :: rest) => .ok (piece .empty, rest)
  | some (d :: ')' :: rest) =>
    if ['X', '<', '>'].contains d then .ok (piece .empty, rest)
    else .error .badCallout
  | _ => .error .badCallout

/-- The pattern of a callout by its name. -/
def callout? : String → Option (Pattern Reference)
  | "FAIL" => some .fail
  | _ => none

/-- The fault of a name that is not that of a callout. -/
def calloutFault (name : String) : Fault :=
  if ["MISMATCH", "ERROR", "MAX", "COUNT", "TOTAL_COUNT", "CMP"].contains name then .unsupported
  else .unknownCallout

/-- A callout by name, in a group that starts with a star. -/
def callout (s : List Char) : TokenResult :=
  let name := s.takeWhile fun c => !([')', '[', '{'].contains c)
  match s.drop name.length with
  | [] => .error .badCallout
  | c :: rest =>
    if name.isEmpty || !name.all (fun c => c.isAlphanum || c = '_') || name.head?.any Char.isDigit
    then .error .badCalloutName
    else
      match callout? (String.ofList name) with
      | none => .error (calloutFault (String.ofList name))
      | some p =>
        if c = ')' then .ok (piece p, rest)
        else .error (if c = '[' then .unsupported else .badCallout)

theorem after?_length {place s rest : List Char} (h : after? place s = some rest) :
    rest.length ≤ s.length := by
  fun_induction after? place s with
  | case1 => simp at h
  | case2 =>
    simp at h
    simp [← h]
  | case3 _ _ _ ih => exact Nat.le_succ_of_le (ih h)

theorem contents_length {s rest : List Char} {t : Token} (h : contents s = .ok (t, rest)) :
    rest.length ≤ s.length := by
  have key : ∀ {place u : List Char},
      after? place (s.drop (s.takeWhile (· = '\x7b')).length) = some u → u.length ≤ s.length :=
    fun e => Nat.le_trans (after?_length e) (by simp)
  simp only [contents] at h
  split at h
  · next e =>
    have := key e
    simp at h this
    rw [h.2] at this
    omega
  · next e =>
    have := key e
    split at h <;> simp at h
    simp at this
    rw [h.2] at this
    omega
  · simp at h

theorem callout_length {s rest : List Char} {t : Token} (h : callout s = .ok (t, rest)) :
    rest.length ≤ s.length := by
  simp only [callout] at h
  split at h
  · simp at h
  · next e =>
    have hs := congrArg List.length e
    simp at hs
    repeat' split at h
    all_goals simp at h
    rw [h.2] at hs
    omega

/-! ### Conditions -/

/-- The groups of a written name. -/
def referredGroups (g : Groups) (n : WrittenName) : Except Fault (List Nat) :=
  match n, n.number? g.count with
  | .word w, _ => if (g.named w).isEmpty then .error (.undefinedName w) else .ok (g.named w)
  | _, some (.ofNat (i + 1)) => .ok [i + 1]
  | _, _ => .error .badReference

/-- What follows the parenthesis that closes a condition. -/
def conditionEnd : List Char → Except Fault (List Char)
  | ')' :: s => .ok s
  | _ => .error .unfinishedGroup

/-- The name in a condition and its level, and what follows the condition. Without marks around it
the name is a number; what is none would be a pattern. -/
def conditionName (s : List Char) : Except Fault ((WrittenName × Option Int) × List Char) :=
  match s with
  | [] => .error .unfinishedGroup
  | '<' :: t => do
    let (n, rest) ← referredName '>' t
    return (n, ← conditionEnd rest)
  | '\'' :: t => do
    let (n, rest) ← referredName '\'' t
    return (n, ← conditionEnd rest)
  | c :: _ =>
    if c.isDigit || isSign c then (referredName ')' s).mapError fun _ => .unsupported
    else .error .unsupported

/-- A group that starts with a condition. One that holds nothing else is the condition itself. -/
def condition (g : Groups) (s : List Char) : TokenResult := do
  let ((n, level), rest) ← conditionName s
  let groups ← referredGroups g n
  match rest with
  | [] => .error .unfinishedGroup
  | ')' :: rest => return (piece (.given false groups level), rest)
  | rest => return (choice groups level, rest)

theorem conditionEnd_length {s rest : List Char} (h : conditionEnd s = .ok rest) :
    rest.length ≤ s.length := by
  unfold conditionEnd at h
  split at h <;> simp at h
  simp [h]

theorem conditionName_length {s rest : List Char} {n : WrittenName × Option Int}
    (h : conditionName s = .ok (n, rest)) : rest.length ≤ s.length := by
  have marked : ∀ {stop : Char} {t : List Char},
      (referredName stop t >>= fun x => conditionEnd x.2 >>= fun rest => pure (x.1, rest)) =
        .ok (n, rest) → rest.length ≤ t.length + 1 := fun h => by
    obtain ⟨⟨_, _⟩, e, h⟩ := bind_eq_ok.1 h
    obtain ⟨_, e', h⟩ := bind_eq_ok.1 h
    obtain ⟨_, rfl⟩ := Prod.mk.injEq .. ▸ pure_eq_ok.1 h
    exact Nat.le_succ_of_le (Nat.le_trans (conditionEnd_length e') (referredName_length e))
  unfold conditionName at h
  split at h
  · simp at h
  · exact marked h
  · exact marked h
  · split at h
    · exact referredName_length (mapError_eq_ok.1 h)
    · simp at h

theorem condition_length {g : Groups} {s rest : List Char} {t : Token}
    (h : condition g s = .ok (t, rest)) : rest.length ≤ s.length := by
  obtain ⟨⟨⟨_, _⟩, _⟩, e, h⟩ := bind_eq_ok.1 h
  obtain ⟨_, _, h⟩ := bind_eq_ok.1 h
  have hs := conditionName_length e
  split at h
  · simp at h
  · obtain ⟨_, rfl⟩ := Prod.mk.injEq .. ▸ pure_eq_ok.1 h
    exact Nat.le_of_succ_le hs
  · obtain ⟨_, rfl⟩ := Prod.mk.injEq .. ▸ pure_eq_ok.1 h
    exact hs

/-- A group after its opening parenthesis. -/
def group (f : Flags) (g : Groups) : List Char → TokenResult
  | '*' :: s => callout s
  | '?' :: s =>
    match s with
    | [] => .error .unfinishedGroup
    | '#' :: t => (afterComment t).map (skipped, ·)
    | '\x7b' :: t => contents t
    | ':' :: t => .ok (opening .plain, t)
    | '>' :: t => .ok (opening .atomic, t)
    | '=' :: t => .ok (opening (.ahead false), t)
    | '!' :: t => .ok (opening (.ahead true), t)
    | ['<'] => .error .unclosedGroup
    | '<' :: '=' :: t => .ok (opening (.behind false), t)
    | '<' :: '!' :: t => .ok (opening (.behind true), t)
    | '<' :: t => (definedName '>' t).map fun (n, rest) => (capture n, rest)
    | '\'' :: t => (definedName '\'' t).map fun (n, rest) => (capture n, rest)
    | '(' :: t => condition g t
    | '~' :: _ => .error .unsupported
    | c :: _ =>
      if ['-', 'i', 'm', 'x'].contains c then flagLetters f true s else .error (flagFault c)
  | s => .ok (capture none, s)

theorem group_length {f : Flags} {g : Groups} {s rest : List Char} {t : Token}
    (h : group f g s = .ok (t, rest)) : rest.length ≤ s.length := by
  have named : ∀ {stop : Char} {u : List Char},
      (definedName stop u).map (fun (n, rest) => (capture n, rest)) = .ok (t, rest) →
      rest.length ≤ u.length := fun h => by
    obtain ⟨⟨_, _⟩, e, h⟩ := map_eq_ok.1 h
    exact definedName_length ((Prod.mk.inj h).2 ▸ e)
  have opened : ∀ {u v : Token} {r : List Char}, Except.ok (ε := Fault) (u, r) = .ok (v, rest) →
      r = rest := fun h => (Prod.mk.inj (Except.ok.inj h)).2
  unfold group at h
  split at h
  · exact Nat.le_succ_of_le (callout_length h)
  · split at h
    · simp at h
    · obtain ⟨_, e, h⟩ := map_eq_ok.1 h
      have := afterComment_length ((Prod.mk.inj h).2 ▸ e)
      exact Nat.le_trans this (Nat.le_add_right _ 2)
    · exact Nat.le_trans (contents_length h) (Nat.le_add_right _ 2)
    · exact opened h ▸ Nat.le_add_right _ 2
    · exact opened h ▸ Nat.le_add_right _ 2
    · exact opened h ▸ Nat.le_add_right _ 2
    · exact opened h ▸ Nat.le_add_right _ 2
    · simp at h
    · exact opened h ▸ Nat.le_add_right _ 3
    · exact opened h ▸ Nat.le_add_right _ 3
    · exact Nat.le_trans (named h) (Nat.le_add_right _ 2)
    · exact Nat.le_trans (named h) (Nat.le_add_right _ 2)
    · exact Nat.le_trans (condition_length h) (Nat.le_add_right _ 2)
    · simp at h
    · split at h
      · exact Nat.le_succ_of_le (flagLetters_length h)
      · simp at h
  · exact opened h ▸ Nat.le_refl _

/-! ### Escapes -/

/-- A back-reference to groups. -/
def sameGroups (f : Flags) (g : Groups) (is : List Nat) (level : Option Int) : Token :=
  piece (.same is (is.any g.unclosed.contains) f.foldCase level)

/-- A back-reference to the groups of a written name. -/
def sameAs (f : Flags) (g : Groups) (n : WrittenName) (level : Option Int) :
    Except Fault Token :=
  (referredGroups g n).map (sameGroups f g · level)

/-- A call of the group of a written name. -/
def callOf (g : Groups) (n : WrittenName) (written : String) : Except Fault Token :=
  match n, n.number? g.count with
  | .word w, _ => .ok (piece (.call (.name w)))
  | _, some (.ofNat i) => .ok (piece (.call (.number i written)))
  | _, _ => .error (.undefinedGroup written)

/-- The digit `c` and those after it refer back if there are that many groups or there is only one
digit; otherwise they spell a character. -/
def numbered (f : Flags) (g : Groups) (c : Char) (s : List Char) : TokenResult :=
  let n := valueOf 10 (c :: s.takeWhile Char.isDigit)
  if n ≤ 1000 ∧ (n ≤ g.count ∨ n ≤ 9) then
    .ok (sameGroups f g [n] none, s.dropWhile Char.isDigit)
  else if c = '8' ∨ c = '9' then .ok (literal f c, s)
  else (escaped false c s).bind fun (n, rest) => (numberLiteral f n).map (·, rest)

/-- The closing character of a name that starts here. -/
def nameClose? : List Char → Option Char
  | '<' :: _ => some '>'
  | '\'' :: _ => some '\''
  | _ => none

/-- The escapes that mean something by themselves. -/
def special? : Char → Option Token
  | 'b' => some (check .wordBoundary)
  | 'B' => some (check .wordInterior)
  | 'A' => some (check .textStart)
  | 'z' => some (check .textEnd)
  | 'Z' => some (check .lastLineEnd)
  | 'G' => some (check .searchStart)
  | 'K' => some (piece .keep)
  | 'N' => some (set .noNewline)
  | 'O' => some (set .full)
  | 'R' => some (piece newlineSequence)
  | c => (shorthand? .wordCharacter c).map set

/-- A backslash and `c`. -/
def escape (f : Flags) (g : Groups) (c : Char) (s : List Char) : TokenResult :=
  match special? c with
  | some t => .ok (t, s)
  | none =>
    match c, nameClose? s with
    | 'k', some stop => do
      let ((n, l), rest) ← referredName stop s.tail
      return (← sameAs f g n l, rest)
    | 'g', some stop => do
      let ((n, written), rest) ← calledName stop s.tail
      return (← callOf g n written, rest)
    | _, _ =>
      if (c = 'p' ∨ c = 'P') ∧ s.head? = some '\x7b' then
        (propertyClass .wordCharacter (c = 'P') s.tail).map fun (set, rest) => (Token.set set, rest)
      else if '1' ≤ c ∧ c ≤ '9' then numbered f g c s
      else if ['X', 'y', 'Y'].contains c then .error .unsupported
      else (escaped false c s).bind fun (n, rest) => (numberLiteral f n).map (·, rest)

theorem numbered_length {f : Flags} {g : Groups} {c : Char} {s rest : List Char} {t : Token}
    (h : numbered f g c s = .ok (t, rest)) : rest.length ≤ s.length := by
  simp only [numbered] at h
  split at h
  · simp at h
    exact h.2 ▸ (List.dropWhile_sublist _).length_le
  · split at h
    · simp at h
      simp [h.2]
    · obtain ⟨⟨_, _⟩, e, h⟩ := bind_eq_ok.1 h
      obtain ⟨_, _, h⟩ := map_eq_ok.1 h
      obtain ⟨_, rfl⟩ := Prod.mk.inj h
      exact escaped_length e

theorem escape_length {f : Flags} {g : Groups} {c : Char} {s rest : List Char} {t : Token}
    (h : escape f g c s = .ok (t, rest)) : rest.length ≤ s.length := by
  have hs : s.tail.length ≤ s.length := by simp
  unfold escape at h
  split at h
  · simp at h
    simp [h.2]
  · split at h
    · obtain ⟨⟨_, _⟩, e, h⟩ := bind_eq_ok.1 h
      obtain ⟨_, _, h⟩ := bind_eq_ok.1 h
      obtain ⟨_, rfl⟩ := Prod.mk.injEq .. ▸ pure_eq_ok.1 h
      exact Nat.le_trans (referredName_length e) hs
    · obtain ⟨⟨_, _⟩, e, h⟩ := bind_eq_ok.1 h
      obtain ⟨_, _, h⟩ := bind_eq_ok.1 h
      obtain ⟨_, rfl⟩ := Prod.mk.injEq .. ▸ pure_eq_ok.1 h
      exact Nat.le_trans (calledName_length e) hs
    · split at h
      · obtain ⟨⟨_, _⟩, e, h⟩ := map_eq_ok.1 h
        simp at h
        exact Nat.le_trans (propertyClass_length (h.2 ▸ e)) hs
      · split at h
        · exact numbered_length h
        · split at h
          · simp at h
          · obtain ⟨⟨_, _⟩, e, h⟩ := bind_eq_ok.1 h
            obtain ⟨_, _, h⟩ := map_eq_ok.1 h
            obtain ⟨_, rfl⟩ := Prod.mk.inj h
            exact escaped_length e

/-! ### Everything -/

/-- A class in brackets. A class of one character is that character. -/
def ofBracket (f : Flags) (b : Bracket) : Token :=
  match b.negated, b.total.sole? with
  | false, some n => if n.isValidChar then literal f (Char.ofNat n) else set .empty
  | negated, _ =>
    if f.foldCase then piece (.atom (.foldedSet b.total negated (!f.behind)))
    else set (.negateIf negated b.total)

def bracketed (f : Flags) (s : List Char) : TokenResult :=
  (bracketClass s).map fun (b, rest) => (ofBracket f b, rest)

/-- The token that starts with `c`. -/
def next (f : Flags) (g : Groups) (c : Char) (s : List Char) : TokenResult :=
  match c with
  | '\\' =>
    match s with
    | [] => .error .loneEscape
    | e :: t => escape f g e t
  | '(' => group f g s
  | ')' => .ok (close, s)
  | '|' => .ok (bar, s)
  | '[' => bracketed f s
  | '.' => .ok (set (if f.dotNewline then .full else .noNewline), s)
  | '^' => .ok (check .lineStart, s)
  | '$' => .ok (check .lineEnd, s)
  | '*' => .ok (loopSuffix 0 none s)
  | '+' => .ok (loopSuffix 1 none s)
  | '?' => .ok (loopSuffix 0 (some 1) s)
  | '\x7b' => (bounds s).map (·.getD (literal f c, s))
  | '#' =>
    if f.extended then .ok (skipped, (s.dropWhile (· != '\n')).tail) else .ok (literal f c, s)
  | _ =>
    if f.extended ∧ [' ', '\t', '\n', '\r', '\x0c'].contains c then .ok (skipped, s)
    else .ok (literal f c, s)

theorem next_length {f : Flags} {g : Groups} {c : Char} {s rest : List Char} {t : Token}
    (h : next f g c s = .ok (t, rest)) : rest.length ≤ s.length := by
  unfold next at h
  split at h
  · split at h
    · simp at h
    · exact Nat.le_succ_of_le (escape_length h)
  · exact group_length h
  · simp at h; simp [h.2]
  · simp at h; simp [h.2]
  · obtain ⟨⟨_, _⟩, e, h⟩ := map_eq_ok.1 h
    simp at h
    exact bracketClass_length (h.2 ▸ e)
  · simp at h; simp [h.2]
  · simp at h; simp [h.2]
  · simp at h; simp [h.2]
  · have := loopSuffix_length 0 none s
    simp at h
    rwa [h] at this
  · have := loopSuffix_length 1 none s
    simp at h
    rwa [h] at this
  · have := loopSuffix_length 0 (some 1) s
    simp at h
    rwa [h] at this
  · obtain ⟨x, e, h⟩ := map_eq_ok.1 h
    cases x with
    | none => simp at h; simp [h.2]
    | some p =>
      obtain ⟨_, _⟩ := p
      exact bounds_length ((Prod.mk.inj h).2 ▸ e)
  · split at h
    · have := (List.dropWhile_sublist (l := s) (· != '\n')).length_le
      simp at h
      simp [← h.2]
      omega
    · simp at h; simp [h.2]
  · split at h <;> (simp at h; simp [h.2])

end Token

end ScopeLexer.Regex
