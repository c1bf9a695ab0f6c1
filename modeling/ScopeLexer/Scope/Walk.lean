import ScopeLexer.Scope.Basic

/-! Walks over a scope tree. A walk holds the scopes still to visit, each with its depth, and one
path, which is cut back to the depth of the next scope before that scope's name joins it. -/

namespace ScopeLexer.Scope

structure Walk where
  pending : List (Scope × Nat)
  path : List String

namespace Walk

/-- The next scope with the names of its ancestors, outermost first, and the walk after it. -/
def next? (w : Walk) : Option ((List String × Scope) × Walk) :=
  match w.pending with
  | [] => none
  | (s, depth) :: rest =>
    some ((w.path.take depth, s),
      ⟨s.children.map (·, depth + 1) ++ rest, w.path.take depth ++ [s.name]⟩)

/-- How many scopes are still to come. -/
def remaining (w : Walk) : Nat := sizeAll (w.pending.map (·.1))

theorem remaining_next {w v : Walk} {x : List String × Scope} (h : w.next? = some (x, v)) :
    v.remaining < w.remaining := by
  unfold next? at h
  split at h
  · simp at h
  · next s depth rest e =>
    simp only [Option.some.injEq, Prod.mk.injEq] at h
    obtain ⟨_, rfl⟩ := h
    obtain ⟨_, _, _, _⟩ := s
    simp [remaining, e, sizeAll_append, sizeAll, size, Function.comp_def]

/-- Everything that a walk still visits, in order. -/
def toList (w : Walk) : List (List String × Scope) :=
  match _h : w.next? with
  | none => []
  | some (x, v) => x :: toList v
termination_by w.remaining
decreasing_by exact remaining_next ‹_›

end Walk

def walk (s : Scope) : Walk := ⟨[(s, 0)], []⟩

end ScopeLexer.Scope
