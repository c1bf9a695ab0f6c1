import Mathlib.Data.List.Forall2
import ScopeLexer.Proofs.Scope.Spine

/-! Scopes further on in the text. Moving a tree by some bytes moves every scope in it and changes
nothing else; two moves make one. Building a forest asks how starts and ends compare, never where
they lie, so it makes no difference whether scopes are moved before a forest is built from them or
the forest is moved afterwards. -/

namespace ScopeLexer.Scope

/-! ### Trees -/

mutual

theorem shift_shift (a b : Nat) : (s : Scope) → (s.shift a).shift b = s.shift (a + b)
  | ⟨_, _, _, children⟩ => by
    rw [shift, shift, shift, shiftAll_shiftAll a b children, Nat.add_assoc]

theorem shiftAll_shiftAll (a b : Nat) :
    (ss : List Scope) → shiftAll b (shiftAll a ss) = shiftAll (a + b) ss
  | [] => rfl
  | s :: ss => by
    rw [shiftAll, shiftAll, shiftAll, shift_shift a b s, shiftAll_shiftAll a b ss]

end

/-- The second tree is the first one `k` bytes further on: scope by scope with the same name and
length, and with as many children in the same order. -/
inductive Moved (k : Nat) : Scope → Scope → Prop
  | intro {s t : Scope} (name : t.name = s.name) (start : t.start = s.start + k)
    (length : t.length = s.length) (children : List.Forall₂ (Moved k) s.children t.children) :
    Moved k s t

mutual

theorem moved_shift (k : Nat) : (s : Scope) → Moved k s (s.shift k)
  | ⟨_, _, _, children⟩ => .intro rfl rfl rfl (moved_shiftAll k children)

theorem moved_shiftAll (k : Nat) : (ss : List Scope) → List.Forall₂ (Moved k) ss (shiftAll k ss)
  | [] => .nil
  | s :: ss => .cons (moved_shift k s) (moved_shiftAll k ss)

end

mutual

theorem Moved.eq_shift {k : Nat} : {s t : Scope} → Moved k s t → t = s.shift k
  | ⟨_, _, _, _⟩, ⟨_, _, _, _⟩, .intro name start length children => by
    rw [shift, Scope.mk.injEq]
    exact ⟨name, start, length, eq_shiftAll_of_moved children⟩

theorem eq_shiftAll_of_moved {k : Nat} :
    {ss ts : List Scope} → List.Forall₂ (Moved k) ss ts → ts = shiftAll k ss
  | [], _, .nil => rfl
  | _ :: _, _, .cons h hs => by
    rw [shiftAll, ← h.eq_shift, ← eq_shiftAll_of_moved hs]

end

/-- A moved scope contains the spans that are moved with it. -/
theorem contains_shift (k : Nat) (s : Scope) (start length : Nat) :
    (s.shift k).contains (start + k) length = s.contains start length := by
  rw [Bool.eq_iff_iff, contains_iff, contains_iff, stop, stop, shift_start, shift_length]
  omega

theorem snoc_shift (k : Nat) (s child : Scope) :
    (s.snoc child).shift k = (s.shift k).snoc (child.shift k) := by
  cases s
  simp [snoc, shift, shiftAll_eq_map]

theorem byStart_map_shift (k : Nat) (ss : List Scope) :
    byStart (ss.map (shift k)) = (byStart ss).map (shift k) := by
  rw [byStart, byStart, List.map_mergeSort fun s _ t _ => ?_]
  simp only [shift_start, Nat.add_le_add_iff_right]

/-! ### Spines -/

namespace Spine

/-- Closed roots and open scopes further on. -/
def shift (k : Nat) (sp : Spine) : Spine :=
  ⟨sp.closed.map (Scope.shift k), sp.opened.map (Scope.shift k)⟩

variable (k : Nat) (sp : Spine) (s : Scope)

theorem put_shift : (sp.shift k).put (s.shift k) = (sp.put s).shift k := by
  obtain ⟨roots, _ | ⟨f, fs⟩⟩ := sp
  · simp only [shift, put, List.map_nil, List.map_append, List.map_cons]
  · simp only [shift, put, List.map_cons, snoc_shift]

/-- Closing stops at the same scope if the condition does not notice the move. -/
theorem close_shift {p q : Scope → Bool} (h : ∀ s, q (s.shift k) = p s) :
    (sp.shift k).close q = (sp.close p).shift k := by
  fun_induction close p sp with
  | case1 roots => rw [shift, List.map_nil, close]
  | case2 roots f fs hp =>
    rw [shift, List.map_cons, close, h, if_pos hp]
  | case3 roots f fs hp ih =>
    rw [← ih, shift, List.map_cons, close, h, if_neg hp]
    exact congrArg (close q) (put_shift k ⟨roots, fs⟩ f)

theorem add_shift : (sp.shift k).add (s.shift k) = (sp.add s).shift k := by
  have hclose := close_shift k sp (p := (·.contains s.start s.length))
    (q := (·.contains (s.shift k).start (s.shift k).length)) fun t => by
      rw [shift_start, shift_length, contains_shift]
  rw [add, add, hclose]
  rfl

theorem foldl_add_shift (ss : List Scope) :
    (ss.map (Scope.shift k)).foldl add (sp.shift k) = (ss.foldl add sp).shift k := by
  induction ss generalizing sp with
  | nil => rfl
  | cons s ss ih => rw [List.map_cons, List.foldl_cons, List.foldl_cons, add_shift, ih]

theorem forest_shift : (sp.shift k).forest = sp.forest.map (Scope.shift k) := by
  rw [forest, forest, close_shift k sp (p := fun _ => false) fun _ => rfl]
  rfl

end Spine

/-! ### Forests -/

theorem forest_map_shift (k : Nat) (ss : List Scope) :
    forest (ss.map (shift k)) = (forest ss).map (shift k) := by
  have hempty : Spine.empty.shift k = Spine.empty := rfl
  calc forest (ss.map (shift k))
    _ = (((byStart ss).map (shift k)).foldl Spine.add (Spine.empty.shift k)).forest := by
      rw [forest_eq, byStart_map_shift, hempty]
    _ = (((byStart ss).foldl Spine.add .empty).shift k).forest := by
      rw [Spine.foldl_add_shift]
    _ = (forest ss).map (shift k) := by
      rw [Spine.forest_shift, forest_eq]

/-- Moved scopes give the moved forest, whatever their spans and whatever is in them already. Two
moves are one by the sum, and a tree is moved exactly if it is the same tree further on. -/
theorem forest_commutes_shift (k : Nat) :
    (∀ ss, forest (ss.map (shift k)) = (forest ss).map (shift k)) ∧
    (∀ (s : Scope) a b, (s.shift a).shift b = s.shift (a + b)) ∧
    ∀ s t, Moved k s t ↔ t = s.shift k :=
  ⟨forest_map_shift k, fun s a b => shift_shift a b s,
    fun s _ => ⟨Moved.eq_shift, fun h => h ▸ moved_shift k s⟩⟩

/-- A scope that sticks out of its host, and one with a child outside of it. -/
example : forest
    ([leaf "Host" 2 4, leaf "Over" 3 9, ⟨"Odd", 4, 1, [leaf "Far" 0 1]⟩].map (shift 5)) =
    [⟨"Host", 7, 4, []⟩, ⟨"Over", 8, 9, [⟨"Odd", 9, 1, [leaf "Far" 5 1]⟩]⟩] := by cbv

end ScopeLexer.Scope
