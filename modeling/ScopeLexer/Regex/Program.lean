import ScopeLexer.Regex.Behind
import ScopeLexer.Unicode.Case

/-! Programs, which are patterns made ready to be run. Calls and loops are spelled out: small loops
are written out as copies of their bodies, which are then not watched, while a loop that stays one
stops at a turn that neither takes text nor changes a group that it watches. -/

namespace ScopeLexer.Regex

/-- What a loop watches in its turns: groups, and a number for the turns if one of them may come to
the loop again. The number has the group in whose program the loop stands before it. -/
structure Watch where
  groups : List Nat
  number : Option (Nat × Nat)
  deriving DecidableEq, Repr

/-- A loop may watch its turns. A called group runs through its number wherever it stands. -/
inductive Program
  | empty
  | atom (a : Atom)
  | assertion (a : Assertion)
  | seq (p q : Program)
  | alt (p q : Program)
  | loop (p : Program) (least : Nat) (most : Option Nat) (greedy : Bool)
    (watch : Option Watch)
  | group (index : Nat) (p : Program)
  | atomic (p : Program)
  | ahead (negated : Bool) (p : Program)
  | behind (negated : Bool) (back : Back) (p : Program)
  | same (groups : List Nat) (foldCase : Bool) (level : Option Int)
  | given (negated : Bool) (groups : List Nat) (level : Option Int)
  | call (index : Nat)
  | keep

namespace Program

def loopCount : Program → Nat
  | loop p _ _ _ _ => p.loopCount + 1
  | seq p q | alt p q => p.loopCount + q.loopCount
  | group _ p | atomic p | ahead _ p | behind _ _ p => p.loopCount
  | _ => 0

/-- The program of the group `owner` with the numbers of turns from `start` on, no two loops sharing
one. -/
def numbered (owner : Nat) (start : Nat) : Program → Program
  | loop p least most greedy watch =>
    loop (p.numbered owner (start + 1)) least most greedy
      (watch.map fun w => { w with number := w.number.map fun _ => (owner, start) })
  | seq p q => seq (p.numbered owner start) (q.numbered owner (start + p.loopCount))
  | alt p q => alt (p.numbered owner start) (q.numbered owner (start + p.loopCount))
  | group i p => group i (p.numbered owner start)
  | atomic p => atomic (p.numbered owner start)
  | ahead negated p => ahead negated (p.numbered owner start)
  | behind negated back p => behind negated back (p.numbered owner start)
  | p => p

end Program

/-! ### Sizes -/

/-- The number of stretches of a list in which neighbours go together. -/
def stretches {α : Type} (together : α → α → Bool) : List α → Nat
  | [] => 0
  | [_] => 1
  | a :: b :: rest => stretches together (b :: rest) + if together a b then 0 else 1

namespace Atom

/-- A run takes a step for each stretch of characters with equally many bytes; where case is
ignored, each character with variants takes one of its own. -/
def size : Atom → Nat
  | chars cs => stretches (fun c d => c.utf8Size = d.utf8Size) cs
  | folded cs _ =>
    stretches (fun c d => c.utf8Size = d.utf8Size && (Unicode.caseVariants c).length ≤ 1 &&
      (Unicode.caseVariants d).length ≤ 1) cs
  | _ => 1

def isAny : Atom → Bool
  | set (.compl .empty) | set (.compl (.range 0x0A 0x0A)) => true
  | _ => false

end Atom

/-- A program with the number of steps that it is written in. -/
structure Code where
  program : Program
  size : Nat

/-- How many steps a loop may be written out to. -/
def sizeLimit : Nat := 10

namespace Code

def empty : Code := ⟨.empty, 0⟩

def seq (c d : Code) : Code := ⟨.seq c.program d.program, c.size + d.size⟩

def alt (c d : Code) : Code := ⟨.alt c.program d.program, c.size + d.size + 2⟩

def copies (c : Code) : Nat → Code
  | 0 => empty
  | n + 1 => c.seq (c.copies n)

/-- At most `n` copies, as many as possible. -/
def options (c : Code) : Nat → Code
  | 0 => empty
  | n + 1 => ⟨.alt (.seq c.program (c.options n).program) .empty, c.size + 1 + (c.options n).size⟩

/-- A loop that is not written out, with so many steps around its body. -/
def loop (c : Code) (least : Nat) (most : Option Nat) (greedy : Bool)
    (watch : Option Watch) (around : Nat) : Code :=
  ⟨.loop c.program least most greedy watch, c.size + around + if watch.isSome then 2 else 0⟩

/-- A loop around a body. -/
def looped (c : Code) (least : Nat) (most : Option Nat) (greedy : Bool)
    (watch : Option Watch) : Code :=
  if c.size = 0 then empty
  else
    match most with
    | none =>
      if least = 1 ∧ sizeLimit < c.size then c.loop 1 none greedy watch 3
      else if least ≤ 1 ∨ c.size * least ≤ sizeLimit then
        (c.copies least).seq (c.loop 0 none greedy watch 2)
      else c.loop least none greedy watch 2
    | some 0 => empty
    | some most =>
      if greedy ∧ (most = 1 ∨ (c.size + 1) * most ≤ sizeLimit) then
        (c.copies least).seq (c.options (most - least))
      else if !greedy ∧ least = 0 ∧ most = 1 then ⟨.alt .empty c.program, c.size + 2⟩
      else c.loop least (some most) greedy watch 2

end Code

/-! ### Patterns -/

namespace Pattern

/-- The groups in the body of a loop that change with its turns. Those under a look-around that is
not negated, or under a loop that watches its own turns, are left out. -/
def changing (known : Nat → Bool) : Pattern Nat → List Nat
  | seq p q | alt p q => p.changing known ++ q.changing known
  | loop p _ _ _ => if p.needsText known then p.changing known else []
  | group i p => i :: p.changing known
  | atomic p | ahead true p | behind true p => p.changing known
  | _ => []

/-- The size of an atomic pattern, given that of what is in it. A loop that never gives back one
character takes a step less. -/
def atomicSize (size : Nat) : Pattern Nat → Nat
  | loop (atom a) least none true =>
    match a with
    | .folded _ _ | .foldedSet _ _ _ => size + 2
    | _ => if least ≤ 1 then a.size * least + a.size + 3 else size + 2
  | _ => size + 2

end Pattern

/-- A whole pattern with what is known about its groups. -/
structure Context where
  whole : Pattern Nat
  count : Nat
  takesText : Nat → Bool
  called : List Nat

namespace Context

def of (whole : Pattern Nat) (count : Nat) : Context :=
  ⟨whole, count, whole.takesText count, whole.called⟩

/-- Whether a pattern that lies in the groups `inside` holds a group or a call that comes to
itself. -/
def comesBack (x : Context) (inside : List Nat) : Pattern Nat → Bool
  | .group i p => x.whole.comesTo x.count p.called (i :: inside)
  | .call i =>
    x.whole.comesTo x.count [i] inside ||
      (x.whole.part? i [0]).any fun (inside, p) => x.whole.comesTo x.count p.called inside
  | .seq p q | .alt p q => x.comesBack inside p || x.comesBack inside q
  | .loop p _ most _ => most ≠ some 0 && x.comesBack inside p
  | .atomic p => x.comesBack inside p
  | _ => false

/-- What a loop around a pattern watches: nothing if every turn takes text, else the groups that the
pattern also refers to. The number is given later. -/
def watched (x : Context) (inside : List Nat) (p : Pattern Nat) : Option Watch :=
  if p.needsText x.takesText then none
  else
    some ⟨(p.changing x.takesText).filter p.referred.contains,
      if x.comesBack inside p then some (0, 0) else none⟩

/-- The code of a pattern that lies in the groups `inside`. The way around a branch counts with the
condition that leads to it. -/
def code (x : Context) (inside : List Nat) : Pattern Nat → Code
  | .empty => .empty
  | .fail => ⟨.ahead true .empty, 1⟩
  | .atom a => ⟨.atom a, a.size⟩
  | .assertion a => ⟨.assertion a, 1⟩
  | .seq p q => (x.code inside p).seq (x.code inside q)
  | .alt p q => (x.code inside p).alt (x.code inside q)
  | .loop p least most greedy =>
    let body := x.code inside p
    let c := body.looped least most greedy (x.watched inside p)
    match p with
    | .atom a => if a.isAny ∧ most = none ∧ greedy then ⟨c.program, least + 1⟩ else c
    | _ => if most = some 0 ∧ p.holds x.called then ⟨.empty, body.size + 1⟩ else c
  | .group i p =>
    let c := x.code (i :: inside) p
    if x.called.contains i then ⟨.call i, c.size + 5⟩ else ⟨.group i c.program, c.size + 2⟩
  | .atomic p =>
    let c := x.code inside p
    ⟨.atomic c.program, p.atomicSize c.size⟩
  | .ahead negated p =>
    let c := x.code inside p
    ⟨.ahead negated c.program, c.size + if negated then 5 else 2⟩
  | .behind negated p =>
    let c := x.code inside p
    let back := (p.reach (x.whole.groupReach (x.count + 1)) inside).back
    let around := match back with
      | .exact _ => if negated then 6 else 3
      | .between _ _ => if negated then 13 else 12
    ⟨.behind negated back c.program, c.size + around⟩
  | .same groups _ foldCase level => ⟨.same groups foldCase level, 1⟩
  | .given negated groups level => ⟨.given negated groups level, if negated then 3 else 1⟩
  | .call i => ⟨.call i, 1⟩
  | .keep => ⟨.keep, 1⟩

/-- What runs when group `i` is called. -/
def body? (x : Context) (i : Nat) : Option Program :=
  if !x.called.contains i then none
  else if i = 0 then some ((x.code [0] x.whole).program.numbered 0 0)
  else
    (x.whole.part? i [0]).map fun (inside, p) => .group i ((x.code inside p).program.numbered i 0)

/-- The program of the whole pattern. -/
def main (x : Context) : Program :=
  if x.called.contains 0 then .call 0 else (x.code [0] x.whole).program.numbered 0 0

end Context

end ScopeLexer.Regex
