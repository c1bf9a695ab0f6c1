import Mathlib.Data.List.Chain
import ScopeLexer.Proofs.Scope.Spine

/-! What building a forest keeps. Names and spans stay as they are, in the order of the starts, and
scopes that are nested give trees that are nested: a scope is only put into one that contains it. -/

namespace ScopeLexer.Scope

/-- What is in a scope besides its children. -/
def label (s : Scope) : String × Nat × Nat := (s.name, s.start, s.length)

/-- The names and spans of all scopes in some trees, in preorder. -/
def labels (ss : List Scope) : List (String × Nat × Nat) := (preorderAll ss).map label

theorem labels_append (ss ts : List Scope) : labels (ss ++ ts) = labels ss ++ labels ts := by
  rw [labels, preorderAll_append, List.map_append]
  rfl

theorem labels_cons (s : Scope) (ss : List Scope) : labels (s :: ss) = labels [s] ++ labels ss :=
  labels_append [s] ss

theorem labels_snoc (s child : Scope) : labels [s.snoc child] = labels [s] ++ labels [child] := by
  simp [labels, preorderAll, preorder_eq, preorderAll_append, snoc, label]

namespace Spine

/-- Closed roots first, then the open scopes from the outermost one on. -/
def labels (sp : Spine) : List (String × Nat × Nat) :=
  Scope.labels sp.closed ++ Scope.labels sp.opened.reverse

theorem labels_opened_cons (roots : List Scope) (f : Scope) (fs : List Scope) :
    labels ⟨roots, f :: fs⟩ = labels ⟨roots, fs⟩ ++ Scope.labels [f] := by
  simp [labels, labels_append]

theorem labels_put (sp : Spine) (s : Scope) : (sp.put s).labels = sp.labels ++ Scope.labels [s] := by
  obtain ⟨roots, _ | ⟨f, fs⟩⟩ := sp
  · simp [put, labels, Scope.labels, preorderAll_eq_flatMap]
  · rw [put, labels_opened_cons, labels_opened_cons, labels_snoc, List.append_assoc]

theorem labels_close (p : Scope → Bool) (sp : Spine) : (sp.close p).labels = sp.labels := by
  fun_induction close p sp with
  | case1 roots => rfl
  | case2 roots f fs hp => rfl
  | case3 roots f fs hp ih => rw [ih, labels_put, labels_opened_cons]

theorem labels_add (sp : Spine) (s : Scope) : (sp.add s).labels = sp.labels ++ Scope.labels [s] := by
  rw [add, labels_opened_cons, labels_close]

theorem labels_forest (sp : Spine) : Scope.labels sp.forest = sp.labels := by
  rw [← labels_close (fun _ => false), labels, opened_close_all]
  exact (List.append_nil _).symm

theorem labels_foldl (sp : Spine) (ss : List Scope) :
    (ss.foldl add sp).labels = sp.labels ++ Scope.labels ss := by
  induction ss generalizing sp with
  | nil => exact (List.append_nil _).symm
  | cons s ss ih =>
    rw [List.foldl_cons, ih, labels_add, labels_cons s ss, List.append_assoc]

/-- Every tree of a spine is nested, and every open scope lies in the next one. -/
structure Nested (P : (start length : Nat) → Prop) (sp : Spine) : Prop where
  closed : ∀ s ∈ sp.closed, s.Nested P
  opened : ∀ f ∈ sp.opened, f.Nested P
  chain : sp.opened.IsChain fun f g => g.contains f.start f.length

variable {P : (start length : Nat) → Prop}

theorem Nested.put {sp : Spine} {s : Scope} (h : sp.Nested P) (hs : s.Nested P)
    (hc : ∀ f ∈ sp.opened.head?, f.contains s.start s.length) : (sp.put s).Nested P := by
  obtain ⟨roots, _ | ⟨f, fs⟩⟩ := sp
  · refine ⟨fun t ht => ?_, fun f hf => (nomatch hf), .nil⟩
    rcases List.mem_append.1 ht with ht | ht
    · exact h.closed t ht
    · exact List.mem_singleton.1 ht ▸ hs
  · refine ⟨h.closed, ?_, ?_⟩
    · obtain ⟨hf, hfs⟩ := List.forall_mem_cons.1 h.opened
      exact List.forall_mem_cons.2 ⟨hf.snoc (hc f rfl) hs, hfs⟩
    · obtain ⟨hg, hfs⟩ := List.isChain_cons.1 h.chain
      exact List.isChain_cons.2 ⟨hg, hfs⟩

theorem Nested.close {sp : Spine} (p : Scope → Bool) (h : sp.Nested P) : (sp.close p).Nested P := by
  fun_induction Spine.close p sp with
  | case1 roots => exact h
  | case2 roots f fs hp => exact h
  | case3 roots f fs hp ih =>
    obtain ⟨hf, hfs⟩ := List.forall_mem_cons.1 h.opened
    obtain ⟨hg, hchain⟩ := List.isChain_cons.1 h.chain
    have hr : Nested P ⟨roots, fs⟩ := ⟨h.closed, hfs, hchain⟩
    exact ih (hr.put hf hg)

theorem Nested.add {sp : Spine} {s : Scope} (h : sp.Nested P) (hs : s.Nested P) :
    (sp.add s).Nested P := by
  obtain ⟨hclosed, hopened, hchain⟩ := h.close (·.contains s.start s.length)
  refine ⟨hclosed, List.forall_mem_cons.2 ⟨hs, hopened⟩, List.isChain_cons.2 ⟨?_, hchain⟩⟩
  intro f hf
  obtain ⟨fs, hfs⟩ := List.head?_eq_some_iff.1 hf
  exact close_opened hfs

theorem Nested.foldl {sp : Spine} {ss : List Scope} (h : sp.Nested P)
    (hs : ∀ s ∈ ss, s.Nested P) : (ss.foldl Spine.add sp).Nested P := by
  induction ss generalizing sp with
  | nil => exact h
  | cons s ss ih =>
    obtain ⟨hs, hss⟩ := List.forall_mem_cons.1 hs
    exact ih (h.add hs) hss

end Spine

/-- A forest has the names and spans of the scopes it was built from, and no others. -/
theorem labels_forest (ss : List Scope) : labels (forest ss) = labels (byStart ss) := by
  rw [forest_eq, Spine.labels_forest, Spine.labels_foldl]
  rfl

theorem labels_forest_perm (ss : List Scope) : (labels (forest ss)).Perm (labels ss) := by
  have h : (byStart ss).Perm ss := List.mergeSort_perm _ _
  rw [labels_forest, labels, labels, preorderAll_eq_flatMap, preorderAll_eq_flatMap]
  exact (h.flatMap_right preorder).map label

/-- Nested scopes give a nested forest. -/
theorem nested_forest {P : (start length : Nat) → Prop} {ss : List Scope}
    (h : ∀ s ∈ ss, s.Nested P) : ∀ s ∈ forest ss, s.Nested P := by
  have hempty : Spine.empty.Nested P := 
    ⟨fun s hs => (nomatch hs), fun f hf => (nomatch hf), .nil⟩
  have hs : ∀ s ∈ byStart ss, s.Nested P := fun s hs => h s (List.mem_mergeSort.1 hs)
  rw [forest_eq]
  exact ((hempty.foldl hs).close _).closed

end ScopeLexer.Scope
