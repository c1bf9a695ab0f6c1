/-! Sorting by keys. Elements with the same key keep their order. -/

namespace ScopeLexer

variable {α β : Type} [LE β] [DecidableLE β] [Std.IsLinearPreorder β]

theorem key_trans (f : α → β) (x y z : α) : decide (f x ≤ f y) → decide (f y ≤ f z) →
    decide (f x ≤ f z) := by
  simp only [decide_eq_true_eq]
  exact Std.le_trans

theorem key_total (f : α → β) (x y : α) : decide (f x ≤ f y) || decide (f y ≤ f x) := by
  simp only [Bool.or_eq_true, decide_eq_true_eq]
  exact Std.le_total

theorem sorted_mergeSort (f : α → β) (xs : List α) :
    (xs.mergeSort fun x y => f x ≤ f y).Pairwise fun x y => f x ≤ f y :=
  (List.pairwise_mergeSort (key_trans f) (key_total f) xs).imp of_decide_eq_true

variable [DecidableEq β]

theorem filter_mergeSort (f : α → β) (xs : List α) (key : β) :
    (xs.mergeSort fun x y => f x ≤ f y).filter (f · = key) = xs.filter (f · = key) := by
  have htogether : (xs.filter (f · = key)).Pairwise fun x y => decide (f x ≤ f y) := by
    rw [List.pairwise_filter]
    refine List.pairwise_of_forall fun x y hx hy => ?_
    rw [decide_eq_true_eq] at hx hy ⊢
    rw [hx, hy]
    exact Std.le_refl key
  have hsub := List.sublist_mergeSort (key_trans f) (key_total f) htogether List.filter_sublist
  have hfilter := hsub.filter (f · = key)
  rw [List.filter_filter] at hfilter
  simp only [Bool.and_self] at hfilter
  have hperm := (List.mergeSort_perm xs fun x y => f x ≤ f y).filter (f · = key)
  exact (hfilter.eq_of_length hperm.length_eq.symm).symm

/-- What holds of elements with the same key, in their order, holds of them in the order of keys. -/
theorem pairwise_mergeSort_key {f : α → β} {xs : List α} {R : α → α → Prop}
    (h : xs.Pairwise fun x y => f x = f y → R x y) :
    (xs.mergeSort fun x y => f x ≤ f y).Pairwise fun x y => f x = f y → R x y := by
  rw [List.pairwise_iff_forall_sublist] at h ⊢
  intro x y hxy he
  have hboth := hxy.filter (f · = f x)
  rw [filter_mergeSort] at hboth
  refine h (?_ : [x, y].Sublist xs) he
  simpa [he] using hboth.trans List.filter_sublist

/-- The second list has the elements of the first by their keys, and those with one key in the
order that they have there. -/
structure StableSort (f : α → β) (xs ys : List α) : Prop where
  perm : ys.Perm xs
  sorted : ys.Pairwise fun x y => f x ≤ f y
  stable : ∀ key, ys.filter (f · = key) = xs.filter (f · = key)

theorem stableSort_mergeSort (f : α → β) (xs : List α) :
    StableSort f xs (xs.mergeSort fun x y => f x ≤ f y) :=
  ⟨List.mergeSort_perm _ _, sorted_mergeSort f xs, filter_mergeSort f xs⟩

end ScopeLexer
