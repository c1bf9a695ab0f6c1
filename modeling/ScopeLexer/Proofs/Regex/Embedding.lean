import ScopeLexer.Proofs.Regex.Renumber
import ScopeLexer.Regex.Recursion

/-! Patterns inside a larger one. When several patterns become the branches of one alternation, each
in a group of its own, the groups of one are numbered behind those of the branches before it. Then
nothing outside of a branch mentions its groups, so that whatever is asked about them has the same
answer in the whole. -/

namespace ScopeLexer.Regex

namespace Pattern

variable {ρ : Type}

/-- A pattern with `n` groups: it opens some of them, refers back to some or asks for them, and calls
some or the whole pattern. -/
def Bounded (n : Nat) : Pattern Nat → Prop
  | group i p => (1 ≤ i ∧ i ≤ n) ∧ p.Bounded n
  | seq p q | alt p q => p.Bounded n ∧ q.Bounded n
  | loop p _ _ _ | atomic p | ahead _ p | behind _ p => p.Bounded n
  | same groups _ _ _ | given _ groups _ => ∀ i ∈ groups, 1 ≤ i ∧ i ≤ n
  | call i => i ≤ n
  | _ => True

namespace Bounded

variable {n : Nat} {p : Pattern Nat}

theorem opened (h : p.Bounded n) {i : Nat} (hi : i ∈ p.opened) : 1 ≤ i ∧ i ≤ n := by
  induction p with
  | group j p ih =>
    rcases List.mem_cons.1 hi with rfl | hi
    · exact h.1
    · exact ih h.2 hi
  | seq p q ihp ihq | alt p q ihp ihq =>
    rcases List.mem_append.1 hi with hi | hi
    · exact ihp h.1 hi
    · exact ihq h.2 hi
  | loop p _ _ _ ih | atomic p ih | ahead _ p ih | behind _ p ih => exact ih h hi
  | _ => simp [Pattern.opened] at hi

theorem called (h : p.Bounded n) {i : Nat} (hi : i ∈ p.called) : i ≤ n := by
  induction p with
  | group j p ih => exact ih h.2 hi
  | seq p q ihp ihq | alt p q ihp ihq =>
    rcases List.mem_append.1 hi with hi | hi
    · exact ihp h.1 hi
    · exact ihq h.2 hi
  | loop p _ _ _ ih | atomic p ih | ahead _ p ih | behind _ p ih => exact ih h hi
  | call j =>
    obtain rfl := List.mem_singleton.1 hi
    exact h
  | _ => simp [Pattern.called] at hi

theorem referred (h : p.Bounded n) {i : Nat} (hi : i ∈ p.referred) : 1 ≤ i ∧ i ≤ n := by
  induction p with
  | group j p ih => exact ih h.2 hi
  | seq p q ihp ihq | alt p q ihp ihq =>
    rcases List.mem_append.1 hi with hi | hi
    · exact ihp h.1 hi
    · exact ihq h.2 hi
  | loop p _ _ _ ih | atomic p ih | ahead _ p ih | behind _ p ih => exact ih h hi
  | same | given => exact h i hi
  | _ => simp [Pattern.referred] at hi

/-- The body of a group is as bounded as the pattern that holds it. -/
theorem part? (h : p.Bounded n) {i : Nat} {inside js : List Nat} {q : Pattern Nat}
    (hq : p.part? i inside = some (js, q)) : q.Bounded n := by
  induction p generalizing inside with
  | group j p ih =>
    rw [Pattern.part?] at hq
    split at hq
    · obtain ⟨_, rfl⟩ := Prod.mk.inj (Option.some.inj hq)
      exact h.2
    · exact ih h.2 hq
  | seq p q ihp ihq | alt p q ihp ihq =>
    rcases Option.or_eq_some_iff.1 hq with hq | ⟨_, hq⟩
    · exact ihp h.1 hq
    · exact ihq h.2 hq
  | loop p _ _ _ ih | atomic p ih | ahead _ p ih | behind _ p ih => exact ih h hq
  | _ => simp [Pattern.part?] at hq

theorem place? (h : p.Bounded n) {i : Nat} {js : List Nat} {q : Pattern Nat}
    (hq : p.place? i = some (js, q)) : q.Bounded n := by
  unfold Pattern.place? at hq
  split at hq
  · obtain ⟨_, rfl⟩ := Prod.mk.inj (Option.some.inj hq)
    exact h
  · exact h.part? hq

end Bounded

/-! ### Branches -/

/-- The pattern of several branches, in order. -/
def alternatives : List (Pattern ρ) → Pattern ρ
  | [] => empty
  | [p] => p
  | p :: q :: ps => alt p (alternatives (q :: ps))

/-- A pattern in a group of its own, number `b`, with its groups behind that. -/
def branch (b : Nat) (p : Pattern Nat) : Pattern Nat := (group b (p.shift b)).isolated

/-- The branches of patterns with so many groups each, behind `count` groups. -/
def branchesFrom : (count : Nat) → List (Pattern Nat × Nat) → List (Pattern Nat)
  | _, [] => []
  | count, (p, n) :: ps => branch (count + 1) p :: branchesFrom (count + 1 + n) ps

/-- How many groups they are. -/
def countFrom : (count : Nat) → List (Pattern Nat × Nat) → Nat
  | count, [] => count
  | count, (_, n) :: ps => countFrom (count + 1 + n) ps

/-- `p`, with `n` groups, stands in `whole`, with `count` groups, in group `b`: whatever is said about
the groups of `p` is said there, with their numbers moved, about those of `whole`. -/
structure Embeds (b : Nat) (p : Pattern Nat) (n : Nat) (whole : Pattern Nat) (count : Nat) :
    Prop where
  pos : 1 ≤ b
  le : b + n ≤ count
  bounded : p.Bounded n
  part : ∀ i ≤ n, whole.part? (b + i) [0] =
    (p.place? i).map fun (js, q) => (js.map (b + ·) ++ [0], q.shift b)
  called : ∀ i ≤ n, b + i ∈ whole.called ↔ i ∈ p.called
  referred : ∀ i ≤ n, b + i ∈ whole.referred ↔ i ∈ p.referred

end Pattern

end ScopeLexer.Regex
