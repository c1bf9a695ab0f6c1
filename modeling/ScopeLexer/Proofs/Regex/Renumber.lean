import ScopeLexer.Regex.Search

/-! Patterns with other group numbers. A pattern that becomes a branch of a larger one keeps its
shape, but its groups get numbers behind those of the branches before it, and the whole pattern, the
group zero, becomes a group too. All numbers grow by the same amount. -/

namespace ScopeLexer.Regex

namespace Pattern

variable {ρ σ : Type}

/-- Adds `b` to the numbers of groups; what calls mean is left to `f`. -/
def renumber (b : Nat) (f : ρ → σ) : Pattern ρ → Pattern σ
  | empty => empty
  | fail => fail
  | atom a => atom a
  | assertion a => assertion a
  | seq p q => seq (p.renumber b f) (q.renumber b f)
  | alt p q => alt (p.renumber b f) (q.renumber b f)
  | loop p least most greedy => loop (p.renumber b f) least most greedy
  | group i p => group (b + i) (p.renumber b f)
  | atomic p => atomic (p.renumber b f)
  | ahead negated p => ahead negated (p.renumber b f)
  | behind negated p => behind negated (p.renumber b f)
  | same groups inside foldCase level => same (groups.map (b + ·)) inside foldCase level
  | given negated groups level => given negated (groups.map (b + ·)) level
  | call target => call (f target)
  | keep => keep

/-- Adds `b` to all numbers of groups. -/
def shift (b : Nat) (p : Pattern Nat) : Pattern Nat := p.renumber b (b + ·)

/-- The groups that a pattern opens. -/
def opened : Pattern ρ → List Nat
  | group i p => i :: p.opened
  | seq p q | alt p q => p.opened ++ q.opened
  | loop p _ _ _ | atomic p | ahead _ p | behind _ p => p.opened
  | _ => []

variable {b : Nat} {f : ρ → σ}

theorem called_shift (b : Nat) (p : Pattern Nat) : (p.shift b).called = p.called.map (b + ·) := by
  unfold shift
  induction p with
  | seq p q ihp ihq | alt p q ihp ihq => simp [renumber, called, ihp, ihq]
  | loop p _ _ _ ih | atomic p ih | ahead _ p ih | behind _ p ih | group _ p ih =>
    simp [renumber, called, ih]
  | _ => rfl

theorem part?_eq_none {i : Nat} {inside : List Nat} {p : Pattern ρ} (h : i ∉ p.opened) :
    p.part? i inside = none := by
  induction p generalizing inside with
  | group j p ih =>
    simp only [opened, List.mem_cons, not_or] at h
    rw [part?, if_neg (Ne.symm h.1), ih h.2]
  | seq p q ihp ihq | alt p q ihp ihq =>
    simp only [opened, List.mem_append, not_or] at h
    rw [part?, ihp h.1, ihq h.2]
    rfl
  | loop p _ _ _ ih | atomic p ih | ahead _ p ih | behind _ p ih => exact ih h
  | _ => rfl

end Pattern

end ScopeLexer.Regex
