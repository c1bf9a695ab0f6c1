import ScopeLexer.Proofs.Scope.Forest

/-! Forests in rows. Scopes are put into a forest by their starts, so a scope that is left behind on
the way up is never looked at again. If every scope either holds a later one or ends before that one
begins, nothing is lost by that: the siblings of the forest lie one behind the other at every
depth. -/

namespace ScopeLexer.Scope

/-- Trees that lie one behind the other, as do the children of each scope in them, and end at `next`
at the latest. -/
structure Row (ss : List Scope) (next : Nat) : Prop where
  apart : ss.Pairwise fun s t => s.stop ≤ t.start
  inside : ∀ s ∈ preorderAll ss, s.children.Pairwise fun t u => t.stop ≤ u.start
  stop_le : ∀ s ∈ ss, s.stop ≤ next

theorem row_nil (next : Nat) : Row [] next :=
  ⟨.nil, fun _ hs => (nomatch hs), fun _ hs => (nomatch hs)⟩

/-- A row that ends where a scope begins is longer by that scope, whose children are in a row. -/
theorem Row.snoc {ss : List Scope} {f : Scope} {next inner : Nat} (h : Row ss f.start)
    (hf : Row f.children inner) (hn : f.stop ≤ next) : Row (ss ++ [f]) next where
  apart := by
    refine List.pairwise_append.2 ⟨h.apart, List.pairwise_singleton _ f, fun s hs t ht => ?_⟩
    obtain rfl := List.mem_singleton.1 ht
    exact h.stop_le s hs
  inside s hs := by
    rw [preorderAll_append] at hs
    rcases List.mem_append.1 hs with hs | hs
    · exact h.inside s hs
    · simp only [preorderAll, List.append_nil, preorder_eq] at hs
      rcases List.mem_cons.1 hs with rfl | hs
      · exact hf.apart
      · exact hf.inside s hs
  stop_le s hs := by
    have hstart : f.start ≤ f.stop := Nat.le_add_right _ _
    rcases List.mem_append.1 hs with hs | hs
    · have := h.stop_le s hs
      omega
    · obtain rfl := List.mem_singleton.1 hs
      exact hn

/-- Holds a later scope, or ends before it begins. -/
def Clears (s t : Scope) : Prop := s.contains t.start t.length ∨ s.stop ≤ t.start

theorem Clears.congr {s s' t : Scope} (h : Clears s t) (hstart : s'.start = s.start)
    (hlength : s'.length = s.length) : Clears s' t := by
  rwa [Clears, contains, stop, ← hstart, ← hlength] at h

namespace Spine

/-- The closed trees inside an open scope end where the next open one begins; those inside the last
one end at `next`. -/
def Rows (roots : List Scope) : (opened : List Scope) → (next : Nat) → Prop
  | [], next => Row roots next
  | f :: fs, next => Row f.children next ∧ Rows roots fs f.start

/-- An open scope that ends before `next` may be closed. -/
theorem Rows.put {roots fs : List Scope} {f : Scope} {next : Nat} (h : Rows roots (f :: fs) next)
    (hf : f.stop ≤ next) : Rows (put ⟨roots, fs⟩ f).closed (put ⟨roots, fs⟩ f).opened next := by
  obtain ⟨hchildren, h⟩ := h
  cases fs with
  | nil => exact h.snoc hchildren hf
  | cons g gs => exact ⟨h.1.snoc hchildren hf, h.2⟩

/-- Closing changes the children of an open scope, but not its span. -/
theorem exists_of_mem_put {roots fs : List Scope} {f g : Scope}
    (h : g ∈ (put ⟨roots, fs⟩ f).opened) : ∃ k ∈ fs, g.start = k.start ∧ g.length = k.length := by
  cases fs with
  | nil => cases h
  | cons k ks =>
    rcases List.mem_cons.1 h with rfl | h
    · exact ⟨k, List.mem_cons_self, rfl, rfl⟩
    · exact ⟨g, List.mem_cons_of_mem _ h, rfl, rfl⟩

theorem exists_of_mem_close {p : Scope → Bool} {sp : Spine} {g : Scope}
    (h : g ∈ (sp.close p).opened) :
    ∃ k ∈ sp.opened, g.start = k.start ∧ g.length = k.length := by
  fun_induction close p sp with
  | case1 roots => cases h
  | case2 roots f fs hp => exact ⟨g, h, rfl, rfl⟩
  | case3 roots f fs hp ih =>
    obtain ⟨k, hk, hstart, hlength⟩ := ih h
    obtain ⟨l, hl, hstart', hlength'⟩ := exists_of_mem_put hk
    exact ⟨l, List.mem_cons_of_mem _ hl, hstart.trans hstart', hlength.trans hlength'⟩

/-- The open scopes that do not satisfy `p` are closed, if each of them ends before `next`. -/
theorem Rows.close {p : Scope → Bool} {sp : Spine} {next : Nat} (h : Rows sp.closed sp.opened next)
    (hsp : ∀ f ∈ sp.opened, ∀ g : Scope, g.start = f.start → g.length = f.length →
      p g ∨ g.stop ≤ next) :
    Rows (sp.close p).closed (sp.close p).opened next := by
  fun_induction Spine.close p sp with
  | case1 roots => exact h
  | case2 roots f fs hp => exact h
  | case3 roots f fs hp ih =>
    obtain ⟨hf, hfs⟩ := List.forall_mem_cons.1 hsp
    refine ih (h.put ((hf f rfl rfl).resolve_left hp)) fun g hg k hstart hlength => ?_
    obtain ⟨g', hg', hstart', hlength'⟩ := exists_of_mem_put hg
    exact hfs g' hg' k (hstart.trans hstart') (hlength.trans hlength')

/-- A scope without children is added behind all that is closed then. -/
theorem Rows.add {sp : Spine} {t : Scope} (h : ∀ next, Rows sp.closed sp.opened next)
    (hsp : ∀ f ∈ sp.opened, Clears f t) (ht : t.children = []) (next : Nat) :
    Rows (sp.add t).closed (sp.add t).opened next := by
  refine ⟨ht ▸ row_nil next, (h t.start).close fun f hf g hstart hlength => ?_⟩
  exact (hsp f hf).congr hstart hlength

theorem Rows.foldl {sp : Spine} {ss : List Scope} (h : ∀ next, Rows sp.closed sp.opened next)
    (hsp : ∀ f ∈ sp.opened, ∀ t ∈ ss, Clears f t) (hleaf : ∀ t ∈ ss, t.children = [])
    (hss : ss.Pairwise Clears) (next : Nat) :
    Rows (ss.foldl Spine.add sp).closed (ss.foldl Spine.add sp).opened next := by
  induction ss generalizing sp with
  | nil => exact h next
  | cons s ss ih =>
    obtain ⟨hs, hss⟩ := List.pairwise_cons.1 hss
    obtain ⟨hsleaf, hleaf⟩ := List.forall_mem_cons.1 hleaf
    refine ih (Rows.add h (fun f hf => hsp f hf s List.mem_cons_self) hsleaf) ?_ hleaf hss
    refine List.forall_mem_cons.2 ⟨hs, fun g hg t ht => ?_⟩
    obtain ⟨k, hk, hstart, hlength⟩ := exists_of_mem_close hg
    exact (hsp k hk t (List.mem_cons_of_mem _ ht)).congr hstart hlength

theorem label_mem_labels {sp : Spine} {f : Scope} (h : f ∈ sp.opened) : label f ∈ sp.labels := by
  refine List.mem_append_right _ (List.mem_map_of_mem (mem_preorderAll.2 ⟨f, ?_, ?_⟩))
  · exact List.mem_reverse.2 h
  · rw [preorder_eq]
    exact List.mem_cons_self

end Spine

theorem preorderAll_leaves {ss : List Scope} (h : ∀ s ∈ ss, s.children = []) :
    preorderAll ss = ss := by
  induction ss with
  | nil => rfl
  | cons s ss ih =>
    obtain ⟨hs, hss⟩ := List.forall_mem_cons.1 h
    rw [preorderAll, preorder_eq, hs, ih hss]
    rfl

/-- Scopes of which each holds the later ones or ends before them give a forest in rows. -/
theorem row_forest {ss : List Scope} {next : Nat} (hleaf : ∀ s ∈ ss, s.children = [])
    (hclears : (byStart ss).Pairwise Clears) (hstop : ∀ s ∈ ss, s.stop ≤ next) :
    Row (forest ss) next := by
  have hperm : (byStart ss).Perm ss := List.mergeSort_perm _ _
  have hleaf : ∀ s ∈ byStart ss, s.children = [] := fun s hs => hleaf s (hperm.mem_iff.1 hs)
  have hempty : ∀ next, Spine.Rows Spine.empty.closed Spine.empty.opened next := row_nil
  have hrows := Spine.Rows.foldl hempty (fun f hf => nomatch hf) hleaf hclears next
  have hclose := hrows.close (p := fun _ => false) fun f hf g hstart hlength => ?_
  · rw [forest_eq, Spine.forest]
    rwa [Spine.opened_close_all] at hclose
  · have hf := Spine.label_mem_labels hf
    rw [Spine.labels_foldl] at hf
    obtain ⟨s, hs, hlabel⟩ := List.mem_map.1 ((List.mem_append.1 hf).resolve_left List.not_mem_nil)
    rw [preorderAll_leaves hleaf] at hs
    simp only [label, Prod.mk.injEq] at hlabel
    obtain ⟨-, hstart', hlength'⟩ := hlabel
    have hs := hstop s (hperm.mem_iff.1 hs)
    refine .inr ?_
    rwa [stop, hstart, hlength, ← hstart', ← hlength']

end ScopeLexer.Scope
