import ScopeLexer.Proofs.Scope.Covering
import ScopeLexer.Proofs.Scope.Host

/-! The order of the scopes in a forest. In preorder the scopes stand by their starts, each with all
that it had in it. Siblings need not: what a scope had in it stays in front of the scopes that are
put into it, also of those that start earlier. Nothing else brings siblings out of order. -/

namespace ScopeLexer.Scope

/-! ### Preorder -/

/-- Nothing is lost, doubled or reordered: the preorder of a forest is made up of the preorders of
the scopes it was built from, in the stable order of their starts; and flat captures stand in that
order themselves. -/
theorem preorder_forest (ss : List Scope) (es : List Capture) :
    (StableSort Scope.start ss (byStart ss) ∧
      (preorderAll (forest ss)).map label = (byStart ss).flatMap fun s => s.preorder.map label) ∧
    StableSort Capture.start es (Capture.byStart es) ∧
      (preorderAll (forestOf es)).map label =
        (Capture.byStart es).map fun e => (e.name, e.start, e.2.1) := by
  refine ⟨⟨stableSort_mergeSort Scope.start ss, ?_⟩,
    stableSort_mergeSort Capture.start es, (labels_forestOf es).trans List.map_map⟩
  have hforest := labels_forest ss
  rwa [labels, labels, preorderAll_eq_flatMap (byStart ss), List.map_flatMap] at hforest

/-! ### Siblings -/

/-- Siblings stand by their starts, at every depth. -/
structure Ordered (ss : List Scope) : Prop where
  roots : ss.Pairwise fun s t => s.start ≤ t.start
  inside : ∀ s ∈ preorderAll ss, s.children.Pairwise fun t u => t.start ≤ u.start

instance (ss : List Scope) : Decidable (Ordered ss) :=
  decidable_of_iff
    (ss.Pairwise (fun s t => s.start ≤ t.start) ∧
      ∀ s ∈ preorderAll ss, s.children.Pairwise fun t u => t.start ≤ u.start)
    ⟨fun ⟨hroots, hinside⟩ => ⟨hroots, hinside⟩, fun h => ⟨h.roots, h.inside⟩⟩

theorem ordered_iff {ss : List Scope} : Ordered ss ↔
    ss.Pairwise (fun s t => s.start ≤ t.start) ∧ ∀ s ∈ ss, Ordered s.children := by
  constructor
  · intro h
    refine ⟨h.roots, fun s hs => ⟨h.inside s ?_, fun t ht => h.inside t ?_⟩⟩ <;>
      refine mem_preorderAll.2 ⟨s, hs, ?_⟩ <;> rw [preorder_eq]
    · exact List.mem_cons_self
    · exact List.mem_cons_of_mem _ ht
  · rintro ⟨hroots, hchildren⟩
    refine ⟨hroots, fun t ht => ?_⟩
    obtain ⟨s, hs, ht⟩ := mem_preorderAll.1 ht
    rw [preorder_eq] at ht
    rcases List.mem_cons.1 ht with rfl | ht
    · exact (hchildren t hs).roots
    · exact (hchildren s hs).inside t ht

theorem ordered_nil : Ordered [] := ordered_iff.2 ⟨.nil, List.forall_mem_nil _⟩

theorem ordered_append {ss ts : List Scope} : Ordered (ss ++ ts) ↔
    Ordered ss ∧ Ordered ts ∧ ∀ s ∈ ss, ∀ t ∈ ts, s.start ≤ t.start := by
  rw [ordered_iff, @ordered_iff ss, @ordered_iff ts, List.pairwise_append,
    List.forall_mem_append]
  tauto

theorem ordered_shift {k : Nat} {ss : List Scope} : Ordered (ss.map (shift k)) ↔ Ordered ss := by
  have hpairwise : ∀ ts : List Scope,
      (ts.map (shift k)).Pairwise (fun s t => s.start ≤ t.start) ↔
        ts.Pairwise fun s t => s.start ≤ t.start := by
    intro ts
    rw [List.pairwise_map]
    simp only [shift_start, Nat.add_le_add_iff_right]
  constructor
  · intro h
    refine ⟨(hpairwise ss).1 h.roots, fun s hs => (hpairwise _).1 ?_⟩
    rw [← shift_children]
    exact h.inside _ (preorderAll_map_shift k ss ▸ List.mem_map_of_mem hs)
  · intro h
    refine ⟨(hpairwise ss).2 h.roots, fun s hs => ?_⟩
    rw [preorderAll_map_shift] at hs
    obtain ⟨t, ht, rfl⟩ := List.mem_map.1 hs
    rw [shift_children]
    exact (hpairwise _).2 (h.inside t ht)

/-- No scope is put into one that has a child of its own which starts later. -/
def Timely (ss : List Scope) : Prop :=
  ∀ i h, host? ss i = some h → ∀ u ∈ (ss.get h).children, u.start ≤ (ss.get i).start

theorem start_tree {ss : List Scope} (i : Fin ss.length) : (tree ss i).start = (ss.get i).start := by
  rw [tree_eq]
  rfl

theorem children_tree {ss : List Scope} (i : Fin ss.length) : (tree ss i).children =
    (ss.get i).children ++ (guests ss (some i)).map (tree ss) := by
  rw [tree_eq]
  rfl

section Sorted

variable {ss : List Scope} (hs : ss.Pairwise fun s t => s.start ≤ t.start)
include hs

theorem sorted_guests (host : Option (Fin ss.length)) :
    ((guests ss host).map (tree ss)).Pairwise fun s t => s.start ≤ t.start := by
  refine List.pairwise_map.2 ((guests_increasing host).imp fun {i j} hij => ?_)
  rw [start_tree, start_tree]
  exact List.pairwise_iff_getElem.1 hs i j i.2 j.2 hij

/-- Guests are ordered if the scopes in each of them are. -/
theorem ordered_guests {host : Option (Fin ss.length)} :
    Ordered ((guests ss host).map (tree ss)) ↔
      ∀ k, host? ss k = host → Ordered (tree ss k).children := by
  rw [ordered_iff, and_iff_right (sorted_guests hs host), List.forall_mem_map]
  simp only [mem_guests]

theorem ordered_children_tree (i : Fin ss.length) : Ordered (tree ss i).children ↔
    Ordered (ss.get i).children ∧ (∀ k, host? ss k = some i → Ordered (tree ss k).children) ∧
      ∀ k, host? ss k = some i → ∀ u ∈ (ss.get i).children, u.start ≤ (ss.get k).start := by
  rw [children_tree, ordered_append, ordered_guests hs]
  simp only [List.forall_mem_map, mem_guests, start_tree]
  tauto

theorem ordered_tree (hchildren : ∀ s ∈ ss, Ordered s.children) (ht : Timely ss)
    (i : Fin ss.length) : Ordered (tree ss i).children :=
  (ordered_children_tree hs i).2 ⟨hchildren _ (List.getElem_mem i.2),
    fun k hk => have := (host?_eq_some.1 hk).1; ordered_tree hchildren ht k, fun k => ht k i⟩
termination_by ss.length - i

theorem ordered_of_roots (hroots : ∀ k, host? ss k = none → Ordered (tree ss k).children)
    (i : Fin ss.length) : Ordered (tree ss i).children := by
  cases hi : host? ss i with
  | none => exact hroots i hi
  | some h =>
    have hlt := (host?_eq_some.1 hi).1
    exact ((ordered_children_tree hs h).1 (ordered_of_roots hroots h)).2.1 i hi
termination_by i

/-- A forest is ordered if the scopes in it were, and none comes too late for its place. -/
theorem ordered_guests_iff : Ordered ((guests ss none).map (tree ss)) ↔
    (∀ s ∈ ss, Ordered s.children) ∧ Timely ss := by
  rw [ordered_guests hs]
  constructor
  · intro h
    have hall := fun i => (ordered_children_tree hs i).1 (ordered_of_roots hs h i)
    refine ⟨fun s hmem => ?_, fun i j hij => (hall j).2.2 i hij⟩
    obtain ⟨i, rfl⟩ := List.mem_iff_get.1 hmem
    exact (hall i).1
  · rintro ⟨hchildren, ht⟩ k -
    exact ordered_tree hs hchildren ht k

end Sorted

theorem ordered_forest (ss : List Scope) :
    Ordered (forest ss) ↔ (∀ s ∈ ss, Ordered s.children) ∧ Timely (byStart ss) := by
  have hperm : (byStart ss).Perm ss := List.mergeSort_perm _ _
  rw [forest_eq_trees, ordered_guests_iff (sorted_byStart ss)]
  simp only [hperm.mem_iff]

/-- The roots of a forest are ordered in any case. -/
theorem sorted_forest (ss : List Scope) : (forest ss).Pairwise fun s t => s.start ≤ t.start := by
  rw [forest_eq_trees]
  exact sorted_guests (sorted_byStart ss) none

end ScopeLexer.Scope
