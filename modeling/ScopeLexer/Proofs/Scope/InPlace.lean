import Mathlib.Algebra.GroupWithZero.Nat
import ScopeLexer.Scope.Basic

/-! Moving a tree in place. The scopes still to be moved are known by their addresses on a stack;
one after the other is moved, and its children come onto the stack. Whatever else is on the stack, a
scope is moved with all that is in it before the next one below it has its turn; so in the end the
whole tree is moved as by recursion. -/

namespace ScopeLexer.Scope

/-! ### Addresses -/

/-- The scope at an address, the numbers of the children on the way down. -/
def at? : Scope → (address : List Nat) → Option Scope
  | s, [] => some s
  | s, i :: address => s.children[i]?.bind (·.at? address)

/-- Changes the scope at an address. -/
def changeAt (f : Scope → Scope) : Scope → (address : List Nat) → Scope
  | s, [] => f s
  | s, i :: address => { s with children := s.children.modify i (·.changeAt f address) }

/-- Moves a scope, but not the scopes inside it. -/
def moveStart (k : Nat) (s : Scope) : Scope := { s with start := s.start + k }

section

variable {f g : Scope → Scope} {s t : Scope} {a : List Nat}

theorem at?_append (a b : List Nat) : s.at? (a ++ b) = (s.at? a).bind (·.at? b) := by
  induction a generalizing s with
  | nil => rfl
  | cons i a ih => simp only [List.cons_append, at?, Option.bind_assoc, ih]

theorem changeAt_append (a b : List Nat) :
    s.changeAt f (a ++ b) = s.changeAt (·.changeAt f b) a := by
  induction a generalizing s with
  | nil => rfl
  | cons i a ih => simp only [List.cons_append, changeAt, ih]

theorem at?_changeAt (h : s.at? a = some t) : (s.changeAt f a).at? a = some (f t) := by
  induction a generalizing s with
  | nil =>
    obtain rfl := Option.some.inj h
    rfl
  | cons i a ih =>
    obtain ⟨c, hc, h⟩ := Option.bind_eq_some_iff.1 h
    rw [changeAt, at?, List.getElem?_modify_eq, hc]
    exact ih h

theorem changeAt_congr (h : s.at? a = some t) (hfg : f t = g t) :
    s.changeAt f a = s.changeAt g a := by
  induction a generalizing s with
  | nil =>
    obtain rfl := Option.some.inj h
    exact hfg
  | cons i a ih =>
    obtain ⟨c, hc, h⟩ := Option.bind_eq_some_iff.1 h
    obtain ⟨hi, rfl⟩ := List.getElem?_eq_some_iff.1 hc
    rw [changeAt, changeAt, List.modify_eq_take_cons_drop hi, List.modify_eq_take_cons_drop hi,
      ih h]

theorem changeAt_id (s : Scope) (a : List Nat) : s.changeAt id a = s := by
  induction a generalizing s with
  | nil => rfl
  | cons i a ih =>
    obtain ⟨name, start, length, children⟩ := s
    have hall : (fun c : Scope => c.changeAt id a) = id := funext ih
    rw [changeAt, hall, List.modify_id]

theorem changeAt_changeAt : (s.changeAt f a).changeAt g a = s.changeAt (g ∘ f) a := by
  induction a generalizing s with
  | nil => rfl
  | cons i a ih =>
    have hall : (fun c => c.changeAt g a) ∘ (fun c => c.changeAt f a) = fun c : Scope =>
        c.changeAt (g ∘ f) a := funext fun _ => ih
    rw [changeAt, changeAt, List.modify_modify_eq, hall, changeAt]

theorem sizeAll_modify (hf : ∀ u, (f u).size = u.size) (ss : List Scope) (i : Nat) :
    sizeAll (ss.modify i f) = sizeAll ss := by
  induction ss generalizing i with
  | nil => rw [List.modify_nil]
  | cons u ss ih =>
    cases i with
    | zero => rw [List.modify_zero_cons, sizeAll, sizeAll, hf]
    | succ i => rw [List.modify_succ_cons, sizeAll, sizeAll, ih]

theorem size_changeAt (hf : ∀ u, (f u).children = u.children) :
    (s.changeAt f a).size = s.size := by
  induction a generalizing s with
  | nil => rw [changeAt, size_eq, hf, ← size_eq]
  | cons i a ih => rw [changeAt, size_eq, sizeAll_modify fun _ => ih, ← size_eq]

/-- A change that leaves the children alone leaves all trees below as large as they are. -/
theorem size_at?_changeAt (hf : ∀ u, (f u).children = u.children) (b : List Nat) :
    ((s.changeAt f a).at? b).map size = (s.at? b).map size := by
  induction b generalizing s a with
  | nil => exact congrArg some (size_changeAt hf)
  | cons j b ih =>
    cases a with
    | nil => rw [changeAt, at?, at?, hf]
    | cons i a =>
      rw [changeAt, at?, at?]
      by_cases hj : i = j
      · obtain rfl := hj
        rw [List.getElem?_modify_eq]
        cases s.children[i]? with
        | none => rfl
        | some c => exact ih
      · rw [List.getElem?_modify_ne _ _ hj]

/-! ### The stack -/

/-- The number of scopes in the tree at an address. -/
def weight (s : Scope) (address : List Nat) : Nat := (s.at? address).elim 0 size

theorem weight_changeAt (hf : ∀ u, (f u).children = u.children) :
    (s.changeAt f a).weight = s.weight := by
  funext b
  have hsize : ∀ x : Option Scope, x.elim 0 size = (x.map size).getD 0 := by
    intro x
    cases x <;> rfl
  rw [weight, weight, hsize, hsize, size_at?_changeAt hf]

/-- The addresses of the children of the scope `t` at the address `a`. -/
def childAddresses (a : List Nat) (t : Scope) : List (List Nat) :=
  (List.range t.children.length).map (a ++ [·])

theorem sum_getElem? (ss : List Scope) :
    ((List.range ss.length).map fun i => ss[i]?.elim 0 size).sum = sizeAll ss := by
  induction ss with
  | nil => rfl
  | cons s ss ih =>
    rw [List.length_cons, List.range_succ_eq_map, List.map_cons, List.map_map, List.sum_cons,
      sizeAll, ← ih]
    rfl

theorem sum_childAddresses (h : s.at? a = some t) :
    ((childAddresses a t).map s.weight).sum = sizeAll t.children := by
  have hweight : ∀ i, s.weight (a ++ [i]) = t.children[i]?.elim 0 size := by
    intro i
    rw [weight, at?_append, h, Option.bind_some, at?]
    cases t.children[i]? <;> rfl
  rw [childAddresses, List.map_map, ← sum_getElem?]
  exact congrArg List.sum (List.map_congr_left fun i _ => hweight i)

end

/-- Moves scopes in place. The scope at the address on top of the stack is moved, and the addresses
of its children come onto the stack, that of the last child on top. At every address there has to be
a scope. -/
def shiftStack? (k : Nat) (s : Scope) : (stack : List (List Nat)) → Option Scope
  | [] => some s
  | address :: stack =>
    match _h : s.at? address with
    | none => none
    | some t =>
      shiftStack? k (s.changeAt (moveStart k) address) ((childAddresses address t).reverse ++ stack)
termination_by stack => (stack.map s.weight).sum
decreasing_by
  rw [weight_changeAt (f := moveStart k) fun _ => rfl, List.map_append, List.map_reverse,
    List.sum_append, List.sum_reverse, sum_childAddresses ‹_›, List.map_cons, List.sum_cons, weight,
    ‹s.at? _ = _›, Option.elim_some, size_eq]
  omega

/-- The first `n` children moved, with all that is in them. -/
def shiftFirst (k n : Nat) (s : Scope) : Scope :=
  { s with children := (s.children.take n).map (shift k) ++ s.children.drop n }

theorem shiftFirst_zero (k : Nat) (s : Scope) : s.shiftFirst k 0 = id s := by
  cases s
  simp [shiftFirst]

theorem map_take_append_modify (f : Scope → Scope) (ss : List Scope) (n : Nat) :
    (ss.take n).map f ++ (ss.drop n).modify 0 f = (ss.take (n + 1)).map f ++ ss.drop (n + 1) := by
  induction ss generalizing n with
  | nil => simp
  | cons s ss ih =>
    cases n with
    | zero => rfl
    | succ n => exact congrArg (f s :: ·) (ih n)

theorem shiftFirst_succ (k n : Nat) (s : Scope) :
    (s.changeAt (shift k) [n]).shiftFirst k n = s.shiftFirst k (n + 1) := by
  have htake : (s.children.take n).modify n (shift k) = s.children.take n :=
    List.modify_eq_self (List.length_take_le n s.children)
  have hmodify : (s.changeAt (shift k) [n]).children = s.children.modify n (shift k) := rfl
  rw [shiftFirst, shiftFirst, hmodify, List.take_modify, htake,
    List.drop_modify_of_ge _ _ _ _ (Nat.le_refl n), Nat.sub_self, map_take_append_modify]
  rfl

theorem shiftFirst_moveStart (k : Nat) (s : Scope) :
    (s.moveStart k).shiftFirst k s.children.length = s.shift k := by
  obtain ⟨name, start, length, children⟩ := s
  simp [shiftFirst, moveStart, shift, shiftAll_eq_map]

variable {k : Nat}

/-- Taken from the stack one by one, children are moved with all that is in them. -/
theorem shiftStack?_children {n : Nat} {a : List Nat} {s t : Scope} (h : s.at? a = some t)
    (hn : n ≤ t.children.length) (stack : List (List Nat))
    (hchild : ∀ c ∈ t.children.take n, ∀ {s b stack}, s.at? b = some c →
      shiftStack? k s (b :: stack) = shiftStack? k (s.changeAt (shift k) b) stack) :
    shiftStack? k s (((List.range n).map (a ++ [·])).reverse ++ stack) =
      shiftStack? k (s.changeAt (shiftFirst k n) a) stack := by
  induction n generalizing s t with
  | zero =>
    rw [changeAt_congr h (shiftFirst_zero k t), changeAt_id]
    rfl
  | succ n ih =>
    have hc : t.children[n] ∈ t.children.take (n + 1) :=
      List.mem_take_iff_getElem.2 ⟨n, by omega, rfl⟩
    have hb : s.at? (a ++ [n]) = some t.children[n] := by
      rw [at?_append, h, Option.bind_some, at?, List.getElem?_eq_getElem hn]
      rfl
    have hchildren : (t.changeAt (shift k) [n]).children = t.children.modify n (shift k) := rfl
    have hfirst : (t.children.modify n (shift k)).take n = t.children.take n := by
      rw [List.take_modify, List.modify_eq_self (List.length_take_le n t.children)]
    have hsub : t.children.take n ⊆ t.children.take (n + 1) :=
      List.take_subset_take_left t.children (Nat.le_succ n)
    -- the last of these children is on top, and the others are as they were after it is moved
    rw [List.range_succ, List.map_append, List.map_singleton, List.reverse_append,
      List.reverse_singleton, List.append_assoc, List.singleton_append, hchild _ hc hb,
      changeAt_append, ih (at?_changeAt h) (by simp [hchildren]; omega), changeAt_changeAt]
    · exact congrArg (fun f => shiftStack? k (s.changeAt f a) stack) (funext (shiftFirst_succ k n))
    · rw [hchildren, hfirst]
      exact fun c hc => hchild c (hsub hc)

/-- Taken from the stack, a scope is moved with all that is in it. -/
theorem shiftStack?_cons {a : List Nat} {s : Scope} {stack : List (List Nat)} (t : Scope)
    (h : s.at? a = some t) :
    shiftStack? k s (a :: stack) = shiftStack? k (s.changeAt (shift k) a) stack := by
  have hmoved := at?_changeAt (f := moveStart k) h
  have hlength : t.children.length ≤ (t.moveStart k).children.length := Nat.le_refl _
  rw [shiftStack?]
  split
  · next hnone =>
    rw [h] at hnone
    cases hnone
  · next t' ht' =>
    obtain rfl := Option.some.inj (h.symm.trans ht')
    rw [childAddresses, shiftStack?_children hmoved hlength stack, changeAt_changeAt]
    · rw [changeAt_congr h (shiftFirst_moveStart k t)]
    · intro c hc s b stack hb
      exact shiftStack?_cons c hb
termination_by t.size
decreasing_by
  rw [size_eq t]
  exact Nat.lt_succ_of_le (size_le_sizeAll (List.mem_of_mem_take hc))

/-- A tree alone on the stack is moved as by recursion, and no address fails. -/
theorem shiftStack?_eq (k : Nat) (s : Scope) : shiftStack? k s [[]] = some (s.shift k) := by
  rw [shiftStack?_cons s rfl, shiftStack?]
  rfl

end ScopeLexer.Scope
