import Mathlib.Data.List.Forall2
import ScopeLexer.Scope.Walk

/-! What walks visit. The scopes still to visit lie no deeper the further down they are in the
stack, so cutting the path back to the depth of the next one never takes away a name that a later
one needs. A walk over a tree therefore visits its scopes in preorder, each with the names of the
scopes around it. The scopes of a tree are told apart by their addresses, the numbers of the
children on the way down; in preorder the addresses increase. -/

namespace ScopeLexer.Scope

/-! ### Tours -/

mutual

/-- The scopes of a tree, each before the scopes in it, with the names of the scopes around it;
`path` are the names around the whole tree. -/
def tour (path : List String) : Scope → List (List String × Scope)
  | ⟨name, start, length, children⟩ =>
    (path, ⟨name, start, length, children⟩) :: tourAll (path ++ [name]) children

def tourAll (path : List String) : List Scope → List (List String × Scope)
  | [] => []
  | s :: ss => s.tour path ++ tourAll path ss

end

theorem tour_eq (path : List String) (s : Scope) :
    s.tour path = (path, s) :: tourAll (path ++ [s.name]) s.children := by
  cases s
  rfl

theorem tourAll_eq_flatMap (path : List String) (ss : List Scope) :
    tourAll path ss = ss.flatMap (tour path) := by
  induction ss with
  | nil => rfl
  | cons s ss ih => rw [tourAll, ih, List.flatMap_cons]

namespace Walk

variable {w v : Walk} {x : List String × Scope}

theorem next?_eq_none : w.next? = none ↔ w.pending = [] := by
  unfold next?
  split <;> simp_all

theorem next?_eq_some : w.next? = some (x, v) ↔ ∃ s depth rest, w.pending = (s, depth) :: rest ∧
    x = (w.path.take depth, s) ∧
    v = ⟨s.children.map (·, depth + 1) ++ rest, w.path.take depth ++ [s.name]⟩ := by
  unfold next?
  split
  · simp_all
  · simp_all [eq_comm]

/-- The scopes to visit lie no deeper one after the other, and none deeper than the path reaches. -/
structure Ready (w : Walk) : Prop where
  descending : w.pending.Pairwise fun e f => f.2 ≤ e.2
  reached : ∀ e ∈ w.pending, e.2 ≤ w.path.length

/-- The tours of all scopes to visit, each along the part of the path that reaches to it. -/
def ahead (w : Walk) : List (List String × Scope) :=
  w.pending.flatMap fun e => e.1.tour (w.path.take e.2)

theorem ready_walk (s : Scope) : s.walk.Ready where
  descending := List.pairwise_singleton _ _
  reached e he := by
    obtain rfl := List.mem_singleton.1 he
    exact Nat.zero_le _

theorem ahead_walk (s : Scope) : s.walk.ahead = s.tour [] := by
  rw [ahead, walk, List.flatMap_singleton, List.take_nil]

theorem Ready.next (h : w.Ready) (hn : w.next? = some (x, v)) : v.Ready := by
  obtain ⟨s, depth, rest, hp, rfl, rfl⟩ := next?_eq_some.1 hn
  obtain ⟨hdescending, hreached⟩ := h
  rw [hp] at hdescending hreached
  obtain ⟨hrest, hdescending⟩ := List.pairwise_cons.1 hdescending
  obtain ⟨hdepth, -⟩ := List.forall_mem_cons.1 hreached
  have hlength : (w.path.take depth ++ [s.name]).length = depth + 1 := by
    rw [List.length_append, List.length_take, Nat.min_eq_left hdepth]
    rfl
  refine ⟨List.pairwise_append.2 ⟨?_, hdescending, ?_⟩, ?_⟩
  · refine List.pairwise_map.2 (List.pairwise_of_forall fun c c' => Nat.le_refl _)
  · intro e he f hf
    obtain ⟨c, -, rfl⟩ := List.mem_map.1 he
    exact Nat.le_succ_of_le (hrest f hf)
  · intro e he
    rw [hlength]
    rcases List.mem_append.1 he with he | he
    · obtain ⟨c, -, rfl⟩ := List.mem_map.1 he
      exact Nat.le_refl _
    · exact Nat.le_succ_of_le (hrest e he)

/-- One step visits the first of the scopes ahead and leaves the others. -/
theorem Ready.ahead_next (h : w.Ready) (hn : w.next? = some (x, v)) : w.ahead = x :: v.ahead := by
  obtain ⟨s, depth, rest, hp, rfl, rfl⟩ := next?_eq_some.1 hn
  obtain ⟨hdescending, hreached⟩ := h
  rw [hp] at hdescending hreached
  obtain ⟨hrest, -⟩ := List.pairwise_cons.1 hdescending
  obtain ⟨hdepth, -⟩ := List.forall_mem_cons.1 hreached
  have hlength : (w.path.take depth).length = depth := List.length_take_of_le hdepth
  have hchildren : (s.children.map (·, depth + 1)).flatMap
      (fun e => e.1.tour ((w.path.take depth ++ [s.name]).take e.2)) =
        tourAll (w.path.take depth ++ [s.name]) s.children := by
    have hall : (w.path.take depth ++ [s.name]).take (depth + 1) = w.path.take depth ++ [s.name] :=
      List.take_of_length_le (by simp [hlength])
    rw [List.flatMap_map, tourAll_eq_flatMap]
    simp only [hall]
  have hothers : rest.flatMap (fun e => e.1.tour ((w.path.take depth ++ [s.name]).take e.2)) =
      rest.flatMap fun e => e.1.tour (w.path.take e.2) := by
    refine List.flatMap_congr fun e he => ?_
    have hle : e.2 ≤ depth := hrest e he
    rw [List.take_append_of_le_length (hlength.symm ▸ hle), List.take_take, Nat.min_eq_left hle]
  rw [ahead, ahead, hp, List.flatMap_cons, List.flatMap_append, hchildren, hothers, tour_eq]
  rfl

/-- A walk visits some scopes one after the other, and then ends. -/
inductive Yields : Walk → List (List String × Scope) → Prop
  | stop {w : Walk} (h : w.next? = none) : Yields w []
  | next {w v : Walk} {x : List String × Scope} {xs : List (List String × Scope)}
    (h : w.next? = some (x, v)) (hv : Yields v xs) : Yields w (x :: xs)

theorem yields_toList (w : Walk) : w.Yields w.toList := by
  fun_induction toList w with
  | case1 w h => exact .stop h
  | case2 w x v h ih => exact .next h ih

theorem Ready.toList_eq_ahead (h : w.Ready) : w.toList = w.ahead := by
  fun_induction toList w with
  | case1 w hn => rw [ahead, next?_eq_none.1 hn, List.flatMap_nil]
  | case2 w x v hn ih => rw [ih (h.next hn), h.ahead_next hn]

end Walk

theorem toList_walk (s : Scope) : s.walk.toList = s.tour [] := by
  rw [(Walk.ready_walk s).toList_eq_ahead, Walk.ahead_walk]

/-! ### Addresses -/

/-- Going down from `s` through the children with the numbers in `address` leads to `t`, past scopes
with the names in `path`. -/
inductive Reaches : (s : Scope) → (address : List Nat) → (path : List String) → (t : Scope) → Prop
  | here (s : Scope) : Reaches s [] [] s
  | down {s c t : Scope} {i : Nat} {address : List Nat} {path : List String}
    (hc : s.children[i]? = some c) (h : Reaches c address path t) :
    Reaches s (i :: address) (s.name :: path) t

mutual

/-- The addresses of all scopes in a tree, in preorder. -/
def addresses : Scope → List (List Nat)
  | ⟨_, _, _, children⟩ => [] :: addressesFrom 0 children

/-- The addresses in trees that are numbered from `i` on. -/
def addressesFrom : (i : Nat) → List Scope → List (List Nat)
  | _, [] => []
  | i, s :: ss => s.addresses.map (i :: ·) ++ addressesFrom (i + 1) ss

end

theorem addresses_eq (s : Scope) : s.addresses = [] :: addressesFrom 0 s.children := by
  cases s
  rfl

/-- An address in numbered trees is the number of one of them and an address in that one. -/
theorem mem_addressesFrom {i : Nat} {ss : List Scope} {address : List Nat} :
    address ∈ addressesFrom i ss ↔
      ∃ j c below, ss[j]? = some c ∧ address = (i + j) :: below ∧ below ∈ c.addresses := by
  induction ss generalizing i with
  | nil => simp [addressesFrom]
  | cons s ss ih =>
    rw [addressesFrom, List.mem_append, List.mem_map, ih]
    constructor
    · rintro (⟨below, hbelow, rfl⟩ | ⟨j, c, below, hc, rfl, hbelow⟩)
      · exact ⟨0, s, below, rfl, rfl, hbelow⟩
      · exact ⟨j + 1, c, below, hc, by rw [Nat.add_right_comm, Nat.add_assoc], hbelow⟩
    · rintro ⟨_ | j, c, below, hc, rfl, hbelow⟩
      · obtain rfl := Option.some.inj hc
        exact .inl ⟨below, hbelow, rfl⟩
      · exact .inr ⟨j, c, below, hc, by rw [Nat.add_right_comm, Nat.add_assoc], hbelow⟩

mutual

theorem addresses_increasing : (s : Scope) → s.addresses.Pairwise (List.Lex (· < ·))
  | ⟨_, _, _, children⟩ => by
    refine List.pairwise_cons.2 ⟨fun address h => ?_, addressesFrom_increasing 0 children⟩
    obtain ⟨j, c, below, -, rfl, -⟩ := mem_addressesFrom.1 h
    exact .nil

theorem addressesFrom_increasing (i : Nat) :
    (ss : List Scope) → (addressesFrom i ss).Pairwise (List.Lex (· < ·))
  | [] => .nil
  | s :: ss => by
    have hfirst : (s.addresses.map (i :: ·)).Pairwise (List.Lex (· < ·)) :=
      List.pairwise_map.2 ((addresses_increasing s).imp .cons)
    refine List.pairwise_append.2
      ⟨hfirst, addressesFrom_increasing (i + 1) ss, fun a ha b hb => ?_⟩
    obtain ⟨below, -, rfl⟩ := List.mem_map.1 ha
    obtain ⟨j, c, below', -, rfl, -⟩ := mem_addressesFrom.1 hb
    exact .rel (by omega)

end

theorem mem_addresses_of_reaches {s t : Scope} {address : List Nat} {path : List String}
    (h : Reaches s address path t) : address ∈ s.addresses := by
  induction h with
  | here s => exact addresses_eq s ▸ List.mem_cons_self
  | @down s c t i address path hc h ih =>
    rw [addresses_eq]
    exact List.mem_cons_of_mem _ (mem_addressesFrom.2 ⟨i, c, address, hc, by rw [Nat.zero_add], ih⟩)

mutual

/-- The tour of a tree goes from address to address. -/
theorem addresses_tour (before : List String) : (s : Scope) →
    List.Forall₂ (fun address x => ∃ path, x.1 = before ++ path ∧ Reaches s address path x.2)
      s.addresses (s.tour before)
  | ⟨name, start, length, children⟩ => by
    refine .cons ⟨[], (List.append_nil _).symm, .here _⟩ ?_
    refine (addressesFrom_tour (before ++ [name]) 0 children).imp ?_
    rintro address x ⟨j, c, below, path, hc, rfl, hx, h⟩
    rw [Nat.zero_add]
    exact ⟨name :: path, hx.trans (List.append_assoc _ _ _), .down hc h⟩

theorem addressesFrom_tour (before : List String) (i : Nat) : (ss : List Scope) →
    List.Forall₂ (fun address x => ∃ j c below path, ss[j]? = some c ∧ address = (i + j) :: below ∧
      x.1 = before ++ path ∧ Reaches c below path x.2) (addressesFrom i ss) (tourAll before ss)
  | [] => .nil
  | s :: ss => by
    refine List.rel_append ?_ ((addressesFrom_tour before (i + 1) ss).imp ?_)
    · refine List.forall₂_map_left_iff.2 ((addresses_tour before s).imp ?_)
      rintro below x ⟨path, hx, h⟩
      exact ⟨0, s, below, path, rfl, rfl, hx, h⟩
    · rintro address x ⟨j, c, below, path, hc, rfl, hx, h⟩
      exact ⟨j + 1, c, below, path, hc, by rw [Nat.add_right_comm, Nat.add_assoc], hx, h⟩

end

/-- A walk over a tree visits its scopes in preorder and then ends. It comes to each address in the
tree once, in increasing order, and gives the scope there with the names of the scopes around it,
outermost first. -/
theorem walk_preorder (s : Scope) :
    s.walk.Yields (s.tour []) ∧ s.walk.toList = s.tour [] ∧
    ∃ ps : List (List Nat), ps.Pairwise (List.Lex (· < ·)) ∧
      (∀ address, address ∈ ps ↔ ∃ path t, Reaches s address path t) ∧
      List.Forall₂ (fun address x => Reaches s address x.1 x.2) ps (s.tour []) := by
  have htour : List.Forall₂ (fun address x => Reaches s address x.1 x.2)
      s.addresses (s.tour []) := by
    refine (addresses_tour [] s).imp ?_
    rintro address x ⟨path, hx, h⟩
    rwa [hx]
  refine ⟨toList_walk s ▸ s.walk.yields_toList, toList_walk s, s.addresses, addresses_increasing s,
    fun address => ⟨fun h => ?_, ?_⟩, htour⟩
  · obtain ⟨i, hi, rfl⟩ := List.mem_iff_getElem.1 h
    exact ⟨_, _, htour.get hi (htour.length_eq ▸ hi)⟩
  · rintro ⟨path, t, h⟩
    exact mem_addresses_of_reaches h

/-- From the innermost scope the path is cut back by two names at once. -/
example : (⟨"A", 0, 5, [⟨"B", 1, 3, [leaf "C" 2 1]⟩, leaf "D" 4 1]⟩ : Scope).walk.toList.map
    (fun (path, t) => (path, t.name)) =
      [([], "A"), (["A"], "B"), (["A", "B"], "C"), (["A"], "D")] := by cbv

end ScopeLexer.Scope
