import ScopeLexer.Proofs.Regex.Settling
import ScopeLexer.Regex.Search

/-! The programs of embedded patterns. A pattern in a larger one has the program that it has alone,
with other numbers for groups and for the turns of loops. The body of the whole pattern, the group
zero, becomes that of a group which keeps its text. -/

namespace ScopeLexer.Regex

variable {b : Nat} {f : Nat × Nat → Nat × Nat}

def Watch.shift (b : Nat) (f : Nat × Nat → Nat × Nat) (w : Watch) : Watch :=
  ⟨w.groups.map (b + ·), w.number.map f⟩

namespace Program

/-- Adds `b` to all numbers of groups, and changes those of turns. -/
def shift (b : Nat) (f : Nat × Nat → Nat × Nat) : Program → Program
  | empty => empty
  | atom a => atom a
  | assertion a => assertion a
  | seq p q => seq (p.shift b f) (q.shift b f)
  | alt p q => alt (p.shift b f) (q.shift b f)
  | loop p least most greedy watch =>
    loop (p.shift b f) least most greedy (watch.map (Watch.shift b f))
  | group i p => group (b + i) (p.shift b f)
  | atomic p => atomic (p.shift b f)
  | ahead negated p => ahead negated (p.shift b f)
  | behind negated back p => behind negated back (p.shift b f)
  | same groups foldCase level => same (groups.map (b + ·)) foldCase level
  | given negated groups level => given negated (groups.map (b + ·)) level
  | call i => call (b + i)
  | keep => keep

end Program

namespace Code

def shift (b : Nat) (f : Nat × Nat → Nat × Nat) (c : Code) : Code := ⟨c.program.shift b f, c.size⟩

end Code

namespace Pattern

variable {n count : Nat} {p q whole : Pattern Nat}

end Pattern

namespace Context

open Pattern

variable {n count : Nat} {p q whole : Pattern Nat} {inside : List Nat}

end Context

/-! ### Numbers in programs -/

/-- The program of a pattern with `n` groups. -/
def Program.Bounded (n : Nat) : Program → Prop
  | seq p q | alt p q => p.Bounded n ∧ q.Bounded n
  | loop p _ _ _ watch => (∀ w ∈ watch, ∀ i ∈ w.groups, 1 ≤ i ∧ i ≤ n) ∧ p.Bounded n
  | group i p => (1 ≤ i ∧ i ≤ n) ∧ p.Bounded n
  | atomic p | ahead _ p | behind _ _ p => p.Bounded n
  | same groups _ _ | given _ groups _ => ∀ i ∈ groups, 1 ≤ i ∧ i ≤ n
  | call i => i ≤ n
  | _ => True

theorem Program.Bounded.numbered {n owner start : Nat} {p : Program} (h : p.Bounded n) :
    (p.numbered owner start).Bounded n := by
  induction p generalizing start with
  | seq p q ihp ihq | alt p q ihp ihq => exact ⟨ihp h.1, ihq h.2⟩
  | loop p _ _ _ watch ih =>
    refine ⟨fun w hw i hi => ?_, ih h.2⟩
    obtain ⟨v, hv, rfl⟩ := Option.map_eq_some_iff.1 hw
    exact h.1 v hv i hi
  | group _ p ih => exact ⟨h.1, ih h.2⟩
  | atomic p ih | ahead _ p ih | behind _ _ p ih => exact ih h
  | _ => exact h

namespace Code

variable {n : Nat} {c : Code}

end Code

namespace Context

open Pattern

variable {n : Nat} {q : Pattern Nat} {inside : List Nat} {x : Context}

end Context

end ScopeLexer.Regex
