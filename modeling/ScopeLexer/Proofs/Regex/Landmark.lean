import ScopeLexer.Proofs.Regex.Forward

/-! Landmarks are passed. An atom that every match of a program passes matches somewhere from the
start of the match on, so nothing is lost where a search leaves out the places behind the last one at
which it does. -/

namespace ScopeLexer.Regex

variable {text : Text} {origin : Nat} {enter : Nat → Matcher}

/-- An atom matches at some place from `i` on. -/
def Atom.OccursFrom (a : Atom) (text : Text) (limit i : Nat) : Prop :=
  ∃ j, i ≤ j ∧ a.ends text limit j ≠ []

theorem Atom.OccursFrom.mono {a : Atom} {limit i j : Nat} (hij : i ≤ j)
    (h : a.OccursFrom text limit j) : a.OccursFrom text limit i := by
  obtain ⟨k, hk, hends⟩ := h
  exact ⟨k, Nat.le_trans hij hk, hends⟩

namespace Program

end Program

end ScopeLexer.Regex
