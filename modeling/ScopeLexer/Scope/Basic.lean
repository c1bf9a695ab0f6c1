/-! Scopes: named spans of text with the scopes inside them. Spans are counted in bytes from the
start of a chunk. Nothing here asks that the children of a scope lie inside it. Positions are not
bounded: spans whose end does not fit into a machine word are left out, so that no sum wraps
around. -/

namespace ScopeLexer

structure Scope where
  name : String
  start : Nat
  length : Nat
  children : List Scope
  deriving Repr, Inhabited

namespace Scope

def leaf (name : String) (start length : Nat) : Scope := ⟨name, start, length, []⟩

/-- The end of a scope, taken to fit into a machine word. -/
def stop (s : Scope) : Nat := s.start + s.length

/-- Containment of a span, shared ends included. The end of the span is taken to fit into a machine
word, as that of the scope. -/
def contains (s : Scope) (start length : Nat) : Bool :=
  s.start ≤ start && start + length ≤ s.stop

mutual

/-- Moves a scope and all scopes inside it. -/
def shift (k : Nat) : Scope → Scope
  | ⟨name, start, length, children⟩ => ⟨name, start + k, length, shiftAll k children⟩

def shiftAll (k : Nat) : List Scope → List Scope
  | [] => []
  | s :: ss => s.shift k :: shiftAll k ss

end

mutual

/-- The number of scopes in a tree. -/
def size : Scope → Nat
  | ⟨_, _, _, children⟩ => sizeAll children + 1

def sizeAll : List Scope → Nat
  | [] => 0
  | s :: ss => s.size + sizeAll ss

end

theorem size_eq (s : Scope) : s.size = sizeAll s.children + 1 := by
  cases s
  rfl

theorem shiftAll_eq_map (k : Nat) (ss : List Scope) : shiftAll k ss = ss.map (shift k) := by
  induction ss with
  | nil => rfl
  | cons s ss ih => simp [shiftAll, ih]

theorem sizeAll_append (ss ts : List Scope) : sizeAll (ss ++ ts) = sizeAll ss + sizeAll ts := by
  induction ss with
  | nil => simp [sizeAll]
  | cons s ss ih => simp [sizeAll, ih, Nat.add_assoc]

theorem size_le_sizeAll {c : Scope} {ss : List Scope} (h : c ∈ ss) : c.size ≤ sizeAll ss := by
  induction ss with
  | nil => cases h
  | cons s ss ih =>
    rw [sizeAll]
    rcases List.mem_cons.1 h with rfl | h
    · exact Nat.le_add_right _ _
    · exact Nat.le_add_left_of_le (ih h)

end Scope

end ScopeLexer
