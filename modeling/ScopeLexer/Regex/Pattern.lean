import ScopeLexer.Regex.Fault
import ScopeLexer.Regex.CharSet

/-! Patterns as trees. A pattern refers to groups by a type `ρ`: by name or number as it is written,
by number alone once its references are resolved. Group zero is the whole pattern. -/

namespace ScopeLexer.Regex

/-- What takes text without looking at groups. A folded run or set ignores case; where `spelled`
holds, one character of either side may also stand for several of the other. -/
inductive Atom
  | chars (cs : List Char)
  | set (s : CharSet)
  | folded (cs : List Char) (spelled : Bool)
  | foldedSet (s : CharSet) (negated spelled : Bool)

inductive Assertion
  | lineStart
  | lineEnd
  | textStart
  | textEnd
  | lastLineEnd
  | wordBoundary
  | wordInterior
  | searchStart
  deriving DecidableEq, Repr

/-- What fails matches nowhere. A back-reference takes the text of the last of its groups that has
one; with a level, that of a group at a nesting of calls so much deeper or shallower. It may stand
inside one of its groups. A condition holds where one of its groups has a text, or, if it is
negated, where none has; it takes no text. -/
inductive Pattern (ρ : Type)
  | empty
  | fail
  | atom (a : Atom)
  | assertion (a : Assertion)
  | seq (p q : Pattern ρ)
  | alt (p q : Pattern ρ)
  | loop (p : Pattern ρ) (least : Nat) (most : Option Nat) (greedy : Bool)
  | group (index : Nat) (p : Pattern ρ)
  | atomic (p : Pattern ρ)
  | ahead (negated : Bool) (p : Pattern ρ)
  | behind (negated : Bool) (p : Pattern ρ)
  | same (groups : List Nat) (inside foldCase : Bool) (level : Option Int)
  | given (negated : Bool) (groups : List Nat) (level : Option Int)
  | call (target : ρ)
  | keep

/-- A group as a pattern text names it; a number keeps its spelling. -/
inductive Reference
  | name (n : String)
  | number (n : Nat) (written : String)
  deriving DecidableEq, Repr

/-- How many groups were opened so far, which of them are still open, the innermost first, and the
names given to some of them, in order. -/
structure Groups where
  count : Nat
  unclosed : List Nat
  names : List (String × Nat)
  deriving DecidableEq, Repr

namespace Groups

def none : Groups := ⟨0, [], []⟩

def add (g : Groups) (name : Option String) : Groups :=
  ⟨g.count + 1, (g.count + 1) :: g.unclosed, g.names ++ name.toList.map (·, g.count + 1)⟩

/-- Closes the innermost group. -/
def close (g : Groups) : Groups := { g with unclosed := g.unclosed.tail }

def named (g : Groups) (n : String) : List Nat :=
  g.names.filterMap fun (m, i) => if m = n then some i else Option.none

/-- The number of the group that a call means. -/
def resolve (g : Groups) : Reference → Except Fault Nat
  | .name n =>
    match g.named n with
    | [] => .error (.undefinedName n)
    | [i] => .ok i
    | _ => .error (.sharedName n)
  | .number i written => if i ≤ g.count then .ok i else .error (.undefinedGroup written)

end Groups

namespace Pattern

variable {ρ σ : Type}

/-- The pattern as an item of its own, which is not joined with what stands around it. -/
def isolated (p : Pattern ρ) : Pattern ρ := seq p empty

/-- A choice by a condition: the first branch where one of the groups has a text, the others where
none has. -/
def choice (groups : List Nat) (level : Option Int) (p : Pattern ρ) : Pattern ρ :=
  isolated <| match p with
    | alt p q => alt (seq (given false groups level) p) (seq (given true groups level) q)
    | p => alt (seq (given false groups level) p) (given true groups level)

/-- The branches of an alternation, in order. -/
def branches : Pattern ρ → List (Pattern ρ)
  | alt p q => p :: q.branches
  | p => [p]

/-- Resolves every reference of a call, in the order of the pattern. -/
def resolve {ε : Type} (f : ρ → Except ε σ) : Pattern ρ → Except ε (Pattern σ)
  | empty => pure empty
  | fail => pure fail
  | atom a => pure (atom a)
  | assertion a => pure (assertion a)
  | seq p q => do return seq (← p.resolve f) (← q.resolve f)
  | alt p q => do return alt (← p.resolve f) (← q.resolve f)
  | loop p least most greedy => do return loop (← p.resolve f) least most greedy
  | group index p => do return group index (← p.resolve f)
  | atomic p => do return atomic (← p.resolve f)
  | ahead negated p => do return ahead negated (← p.resolve f)
  | behind negated p => do return behind negated (← p.resolve f)
  | same groups inside foldCase level => pure (same groups inside foldCase level)
  | given negated groups level => pure (given negated groups level)
  | call target => do return call (← f target)
  | keep => pure keep

/-- The body of group `i` and the groups that it lies in, the innermost first, in a pattern that
lies in the groups `inside`. -/
def part? (i : Nat) (inside : List Nat) : Pattern ρ → Option (List Nat × Pattern ρ)
  | group index p =>
    if index = i then some (index :: inside, p) else p.part? i (index :: inside)
  | seq p q | alt p q => (p.part? i inside).or (q.part? i inside)
  | loop p _ _ _ | atomic p | ahead _ p | behind _ p => p.part? i inside
  | _ => none

/-- The body of group `i` of a whole pattern. -/
def body? (whole : Pattern ρ) (i : Nat) : Option (Pattern ρ) :=
  if i = 0 then some whole else (whole.part? i [0]).map (·.2)

/-- The groups that some call enters. -/
def called : Pattern Nat → List Nat
  | call i => [i]
  | seq p q | alt p q => p.called ++ q.called
  | loop p _ _ _ | group _ p | atomic p | ahead _ p | behind _ p => p.called
  | _ => []

/-- Whether the pattern holds one of the groups. -/
def holds (groups : List Nat) : Pattern ρ → Bool
  | group i p => groups.contains i || p.holds groups
  | seq p q | alt p q => p.holds groups || q.holds groups
  | loop p _ _ _ | atomic p | ahead _ p | behind _ p => p.holds groups
  | _ => false

/-- The groups that some back-reference or condition means. -/
def referred : Pattern ρ → List Nat
  | same groups _ _ _ | given _ groups _ => groups
  | seq p q | alt p q => p.referred ++ q.referred
  | loop p _ _ _ | group _ p | atomic p | ahead _ p | behind _ p => p.referred
  | _ => []

/-! ### Calls -/

/-- The groups among `is` with those that they call, directly or in so many steps. -/
def callees (whole : Pattern Nat) : (steps : Nat) → (is : List Nat) → List Nat
  | 0, is => is
  | steps + 1, is =>
    let more := (is ++ (is.filterMap whole.body?).flatMap called).eraseDups
    if more.length ≤ is.length then is else whole.callees steps more

/-- Whether calls of the groups `is` come to one of the groups `inside`. -/
def comesTo (whole : Pattern Nat) (count : Nat) (is inside : List Nat) : Bool :=
  (whole.callees (count + 1) is.eraseDups).any inside.contains

end Pattern

end ScopeLexer.Regex
