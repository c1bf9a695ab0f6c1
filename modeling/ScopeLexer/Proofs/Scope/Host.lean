import Mathlib.Data.List.FinRange
import ScopeLexer.Proofs.Scope.Forest
import ScopeLexer.Proofs.Sorting

/-! Which scope a scope is put into. Scopes are numbered by their starts. The host of a scope is the
last one before it that contains it, wherever that one lies; a forest built with a cursor only looks
at the scopes from the cursor up. It misses none: a scope between a host and its guest that does not
lie in the host reaches past the end of the host, so it would contain the guest itself. -/

namespace ScopeLexer.Scope

/-- Scope number `j` contains scope number `i`. -/
def Contains (ss : List Scope) (j i : Fin ss.length) : Prop :=
  ss[j].contains ss[i].start ss[i].length

instance (ss : List Scope) (j i : Fin ss.length) : Decidable (Contains ss j i) :=
  inferInstanceAs (Decidable (_ = true))

variable {ss : List Scope}

/-- In the order of starts, what does not contain a later scope that an earlier one contains lies in
the earlier one. -/
theorem contains_between (hs : ss.Pairwise fun s t => s.start ≤ t.start) {h k i : Fin ss.length}
    (hhk : h < k) (hki : k < i) (hh : Contains ss h i) (hk : ¬Contains ss k i) :
    Contains ss h k := by
  have hstart := List.pairwise_iff_getElem.1 hs h k h.2 k.2 hhk
  have hstart' := List.pairwise_iff_getElem.1 hs k i k.2 i.2 hki
  simp only [Contains, contains_iff, stop, Fin.getElem_fin] at hh hk ⊢
  omega

/-! ### Hosts -/

/-- The last scope before number `i` that contains it. -/
def host? (ss : List Scope) (i : Fin ss.length) : Option (Fin ss.length) :=
  Fin.findRev? fun j => j < i ∧ Contains ss j i

variable {h i j k : Fin ss.length}

theorem host?_eq_some : host? ss i = some h ↔
    h < i ∧ Contains ss h i ∧ ∀ k, h < k → k < i → ¬Contains ss k i := by
  simp only [host?, Fin.findRev?_eq_some_iff, decide_eq_true_eq, decide_eq_false_iff_not, not_and,
    and_assoc]

theorem host?_eq_none : host? ss i = none ↔ ∀ j < i, ¬Contains ss j i := by
  simp only [host?, Fin.findRev?_eq_none_iff, decide_eq_false_iff_not, not_and]

/-- The scopes with one host, or with none, in their order. -/
def guests (ss : List Scope) (host : Option (Fin ss.length)) : List (Fin ss.length) :=
  (List.finRange ss.length).filter (host? ss · = host)

theorem mem_guests {host : Option (Fin ss.length)} : i ∈ guests ss host ↔ host? ss i = host := by
  simp [guests]

theorem guests_increasing (host : Option (Fin ss.length)) :
    (guests ss host).Pairwise (· < ·) :=
  (List.pairwise_lt_finRange _).filter _

/-- A scope with its own children, and behind them its guests, each with its guests in turn. -/
def tree (ss : List Scope) (i : Fin ss.length) : Scope :=
  ⟨ss[i].name, ss[i].start, ss[i].length,
    ss[i].children ++ (guests ss (some i)).attach.map fun ⟨k, _⟩ => tree ss k⟩
termination_by ss.length - i
decreasing_by
  have hlt := (host?_eq_some.1 (mem_guests.1 ‹_›)).1
  omega

theorem tree_eq (i : Fin ss.length) : tree ss i =
    ⟨ss[i].name, ss[i].start, ss[i].length,
      ss[i].children ++ (guests ss (some i)).map (tree ss)⟩ := by
  rw [tree]
  exact congrArg (fun ts => Scope.mk _ _ _ (ss[i].children ++ ts)) List.attach_map_val

/-! ### Spines -/

/-- The scopes before `limit` with one host. -/
def guestsBefore (ss : List Scope) (limit : Nat) (host : Option (Fin ss.length)) :
    List (Fin ss.length) :=
  (guests ss host).filter (·.val < limit)

/-- A scope with the guests that come before `limit`. -/
def treeBefore (ss : List Scope) (limit : Nat) (i : Fin ss.length) : Scope :=
  ⟨ss[i].name, ss[i].start, ss[i].length,
    ss[i].children ++ (guestsBefore ss limit (some i)).map (tree ss)⟩

/-- A scope that gets no guests from `limit` on is complete. -/
theorem treeBefore_eq_tree {limit : Nat} (h : ∀ k : Fin ss.length, limit ≤ k → host? ss k ≠ some i) :
    treeBefore ss limit i = tree ss i := by
  have hall : guestsBefore ss limit (some i) = guests ss (some i) := by
    refine List.filter_eq_self.2 fun k hk => decide_eq_true ?_
    by_contra hlimit
    exact h k (by omega) (mem_guests.1 hk)
  rw [treeBefore, tree_eq, hall]

theorem contains_treeBefore {limit : Nat} (h i : Fin ss.length) :
    (treeBefore ss limit h).contains ss[i].start ss[i].length ↔ Contains ss h i := Iff.rfl

/-- How many scopes come no later than a host. -/
def upTo (host : Option (Fin ss.length)) : Nat := host.elim 0 (·.val + 1)

theorem upTo_host? (j : Fin ss.length) : upTo (host? ss j) < upTo (some j) := by
  cases hj : host? ss j with
  | none => exact Nat.succ_pos _
  | some h => exact Nat.succ_lt_succ (host?_eq_some.1 hj).1

/-- The spine on which a scope and its host, the host's host and so on are open, and which has all
scopes before `limit`. -/
def spineTo (ss : List Scope) (limit : Nat) : Option (Fin ss.length) → Spine
  | none => ⟨(guestsBefore ss limit none).map (tree ss), []⟩
  | some i =>
    ⟨(spineTo ss i (host? ss i)).closed, treeBefore ss limit i :: (spineTo ss i (host? ss i)).opened⟩
termination_by host => upTo host
decreasing_by all_goals exact upTo_host? i

/-- All scopes between one and `limit` lie in that one. -/
def FilledTo (ss : List Scope) (limit : Nat) (i : Fin ss.length) : Prop :=
  ∀ k : Fin ss.length, i < k → k < limit → Contains ss i k

/-- A scope that lies in another one has that one or a later one for its host. -/
theorem host?_ne (hjk : j < k) (hc : Contains ss j k) : host? ss k ≠ host? ss j := by
  intro heq
  cases hj : host? ss j with
  | none => exact host?_eq_none.1 (heq.trans hj) j hjk hc
  | some h => exact (host?_eq_some.1 (heq.trans hj)).2.2 j (host?_eq_some.1 hj).1 hjk hc

/-- The last guest before `limit` is the one in which everything else up to `limit` lies. -/
theorem guestsBefore_snoc {limit : Nat} (hj : j < limit) (hf : FilledTo ss limit j) :
    guestsBefore ss limit (host? ss j) = guestsBefore ss j (host? ss j) ++ [j] := by
  obtain ⟨before, after, hsplit⟩ := List.append_of_mem (mem_guests.2 (rfl : host? ss j = _))
  have hinc := guests_increasing (host? ss j)
  rw [hsplit, List.pairwise_append, List.pairwise_cons] at hinc
  obtain ⟨-, ⟨hafter, -⟩, hbefore⟩ := hinc
  have hbefore : ∀ k ∈ before, k < j := fun k hk => hbefore k hk j List.mem_cons_self
  have hlimit : ∀ k ∈ after, limit ≤ k := by
    intro k hk
    by_contra hlt
    -- A guest between `j` and `limit` lies in `j`, which comes after the host of both.
    have hhost : host? ss k = host? ss j := by
      refine mem_guests.1 (hsplit ▸ List.mem_append_right _ (List.mem_cons_of_mem _ hk))
    exact host?_ne (hafter k hk) (hf k (hafter k hk) (by omega)) hhost
  have hkeep : ∀ m : Nat, j ≤ m → before.filter (·.val < m) = before := fun m hm =>
    List.filter_eq_self.2 fun k hk => decide_eq_true (by have := hbefore k hk; omega)
  have hdrop : ∀ m ≤ limit, after.filter (·.val < m) = [] := fun m hm =>
    List.filter_eq_nil_iff.2 fun k hk => by have := hlimit k hk; simp; omega
  have hpos : (j :: after).filter (·.val < limit) = [j] := by
    rw [List.filter_cons_of_pos (by simpa using hj), hdrop _ le_rfl]
  have hneg : (j :: after).filter (·.val < j.val) = [] := by
    rw [List.filter_cons_of_neg (by simp), hdrop _ hj.le]
  rw [guestsBefore, guestsBefore, hsplit, List.filter_append, List.filter_append, hkeep _ hj.le,
    hkeep _ le_rfl, hpos, hneg, List.append_nil]

/-- A complete scope becomes a closed child of its host. -/
theorem put_spineTo {limit : Nat} (hj : j < limit) (hf : FilledTo ss limit j) :
    (spineTo ss j (host? ss j)).put (tree ss j) = spineTo ss limit (host? ss j) := by
  have hsnoc := guestsBefore_snoc hj hf
  generalize host? ss j = host at hsnoc
  cases host with
  | none => rw [spineTo, spineTo, Spine.put, hsnoc, List.map_append, List.map_singleton]
  | some h =>
    rw [spineTo, spineTo, Spine.put, treeBefore, treeBefore, snoc, hsnoc, List.map_append,
      List.map_singleton, List.append_assoc]

/-! ### Going up -/

/-- On the way up to the host of number `i` all behind `host` is done with: it lies in `host`, and
does not contain number `i`. -/
structure Passed (ss : List Scope) (i : Fin ss.length) (host : Option (Fin ss.length)) : Prop where
  lt : ∀ j ∈ host, j < i
  filled : ∀ j ∈ host, FilledTo ss i j
  missed : ∀ k < i, (∀ j ∈ host, j < k) → ¬Contains ss k i

/-- The way begins at the scope before number `i`, if there is one. -/
theorem Passed.start {host : Option (Fin ss.length)} (h : ∀ j, j ∈ host ↔ j.val + 1 = i) :
    Passed ss i host where
  lt j hj := by
    have hji := (h j).1 hj
    omega
  filled j hj k hjk hk := by
    have hji := (h j).1 hj
    omega
  missed k hki hk := by
    have hlt : i.val - 1 < k := hk ⟨i - 1, by omega⟩ ((h _).2 (Nat.sub_add_cancel (by omega)))
    omega

theorem Passed.host?_eq_none (h : Passed ss i none) : host? ss i = none :=
  Scope.host?_eq_none.2 fun k hk => h.missed k hk fun _ hj => nomatch hj

theorem Passed.host?_eq_some (h : Passed ss i (some j)) (hc : Contains ss j i) :
    host? ss i = some j :=
  Scope.host?_eq_some.2 ⟨h.lt j rfl, hc, fun k hjk hki =>
    h.missed k hki fun _ hj => Option.some.inj hj ▸ hjk⟩

section Sorted

variable (hs : ss.Pairwise fun s t => s.start ≤ t.start)
include hs

theorem FilledTo.host {limit : Nat} (hf : FilledTo ss limit j) (hh : host? ss j = some h) :
    FilledTo ss limit h := by
  obtain ⟨hlt, hc, hlast⟩ := host?_eq_some.1 hh
  intro k hhk hk
  rcases lt_trichotomy k j with hkj | rfl | hjk
  · exact contains_between hs hhk hkj hc (hlast k hhk hkj)
  · exact hc
  · have hjk := hf k hjk hk
    simp only [Contains, contains_iff, stop] at hc hjk ⊢
    omega

/-- From a scope that does not contain number `i` the way leads to its host. -/
theorem Passed.up (h : Passed ss i (some j)) (hc : ¬Contains ss j i) : Passed ss i (host? ss j) where
  lt k hk := (Scope.host?_eq_some.1 hk).1.trans (h.lt j rfl)
  filled k hk := (h.filled j rfl).host hs hk
  missed k hki hk hki' := by
    rcases lt_trichotomy k j with hkj | rfl | hjk
    -- What lies between `j` and its host and contains number `i` would contain `j` as well.
    · have hkj' := contains_between hs hkj (h.lt j rfl) hki' hc
      cases hj : host? ss j with
      | none => exact Scope.host?_eq_none.1 hj k hkj hkj'
      | some m => exact (Scope.host?_eq_some.1 hj).2.2 k (hk m hj) hkj hkj'
    · exact hc hki'
    · exact h.missed k hki (fun _ hj => Option.some.inj hj ▸ hjk) hki'

/-- A scope that does not contain number `i` gets no guests from there on. -/
theorem not_guest (hji : j < i) (hc : ¬Contains ss j i) (k : Fin ss.length) (hik : i.val ≤ k) :
    host? ss k ≠ some j := by
  intro hk
  obtain ⟨-, hjk, hlast⟩ := host?_eq_some.1 hk
  rcases Nat.eq_or_lt_of_le hik with hik | hik
  · exact hc (Fin.ext hik ▸ hjk)
  -- The guest would lie in `j` and so, behind number `i`, not in the host that it has.
  · exact hc (contains_between hs hji hik hjk (hlast i hji hik))

/-- To close what does not contain number `i` is to go up to its host. -/
theorem close_spineTo (host : Option (Fin ss.length)) (h : Passed ss i host) :
    (spineTo ss i host).close (·.contains ss[i].start ss[i].length) =
      spineTo ss i (host? ss i) := by
  match host with
  | none =>
    rw [h.host?_eq_none, spineTo, Spine.close]
  | some j =>
    by_cases hc : Contains ss j i
    · rw [h.host?_eq_some hc, spineTo, Spine.close, if_pos ((contains_treeBefore j i).2 hc)]
    · have hput := put_spineTo (h.lt j rfl) (h.filled j rfl)
      rw [spineTo, Spine.close, if_neg (mt (contains_treeBefore j i).1 hc),
        treeBefore_eq_tree (not_guest hs (h.lt j rfl) hc), hput]
      exact close_spineTo (host? ss j) (h.up hs hc)
termination_by upTo host
decreasing_by exact upTo_host? j

theorem close_all_spineTo (host : Option (Fin ss.length)) (h : ∀ j ∈ host, FilledTo ss ss.length j) :
    (spineTo ss ss.length host).close (fun _ => false) = ⟨(guests ss none).map (tree ss), []⟩ := by
  match host with
  | none =>
    rw [spineTo, Spine.close, guestsBefore, List.filter_eq_self.2 fun k _ => decide_eq_true k.2]
  | some j =>
    have hj := h j rfl
    rw [spineTo, Spine.close, if_neg Bool.false_ne_true,
      treeBefore_eq_tree fun k hk => absurd k.2 (by omega), put_spineTo j.2 hj]
    exact close_all_spineTo (host? ss j) fun k hk => hj.host hs hk
termination_by upTo host
decreasing_by exact upTo_host? j

theorem add_spineTo {host : Option (Fin ss.length)} (h : Passed ss i host) :
    (spineTo ss i host).add ss[i] = spineTo ss (i + 1) (some i) := by
  have hnone : guestsBefore ss (i + 1) (some i) = [] := by
    refine List.filter_eq_nil_iff.2 fun k hk => ?_
    have hlt := (host?_eq_some.1 (mem_guests.1 hk)).1
    simp
    omega
  have hnew : treeBefore ss (i + 1) i = ss[i] := by
    rw [treeBefore, hnone, List.map_nil, List.append_nil]
    cases ss[i]
    rfl
  rw [Spine.add, close_spineTo hs host h, spineTo, hnew]

theorem foldl_take {n : Nat} (hn : n ≤ ss.length) :
    ∃ host : Option (Fin ss.length), (∀ j, j ∈ host ↔ j.val + 1 = n) ∧
      (ss.take n).foldl Spine.add .empty = spineTo ss n host := by
  induction n with
  | zero =>
    refine ⟨none, by simp, ?_⟩
    simp [spineTo, guestsBefore, Spine.empty]
  | succ n ih =>
    obtain ⟨host, hhost, hfold⟩ := ih (by omega)
    refine ⟨some ⟨n, hn⟩, fun j => ?_, ?_⟩
    · simp [Fin.ext_iff, eq_comm]
    · rw [← List.take_append_getElem hn, List.foldl_append, hfold]
      exact add_spineTo hs (i := ⟨n, hn⟩) (.start hhost)

end Sorted

theorem sorted_byStart (ss : List Scope) : (byStart ss).Pairwise fun s t => s.start ≤ t.start :=
  sorted_mergeSort Scope.start ss

/-- The roots of a forest have no host, and the others are put into their hosts. -/
theorem forest_eq_trees (ss : List Scope) :
    forest ss = (guests (byStart ss) none).map (tree (byStart ss)) := by
  have hs := sorted_byStart ss
  obtain ⟨host, hhost, hfold⟩ := foldl_take hs (Nat.le_refl _)
  have hfilled : ∀ j ∈ host, FilledTo (byStart ss) (byStart ss).length j := by
    intro j hj k hjk hk
    have := (hhost j).1 hj
    omega
  rw [List.take_length] at hfold
  rw [forest_eq, hfold, Spine.forest, close_all_spineTo hs host hfilled]

/-- With the scopes of a forest numbered in the stable order of their starts, a scope is a root if no
scope before it contains it, and else it is put into the last one before it that does. Roots, and the
scopes that are put into one scope, keep their order; what a scope had in it stays in front. -/
theorem forest_hosts (ss : List Scope) :
    StableSort Scope.start ss (byStart ss) ∧
    (∀ i, host? (byStart ss) i = none ↔ ∀ j < i, ¬Contains (byStart ss) j i) ∧
    (∀ i j, host? (byStart ss) i = some j ↔ j < i ∧ Contains (byStart ss) j i ∧
      ∀ k, j < k → k < i → ¬Contains (byStart ss) k i) ∧
    (∀ host, (guests (byStart ss) host).Pairwise (· < ·) ∧
      ∀ i, i ∈ guests (byStart ss) host ↔ host? (byStart ss) i = host) ∧
    (∀ i, tree (byStart ss) i =
      ⟨(byStart ss)[i].name, (byStart ss)[i].start, (byStart ss)[i].length,
        (byStart ss)[i].children ++
          (guests (byStart ss) (some i)).map (tree (byStart ss))⟩) ∧
    forest ss = (guests (byStart ss) none).map (tree (byStart ss)) :=
  ⟨stableSort_mergeSort Scope.start ss, fun _ => host?_eq_none, fun _ _ => host?_eq_some,
    fun host => ⟨guests_increasing host, fun _ => mem_guests⟩, tree_eq, forest_eq_trees ss⟩

/-- Two scopes that overlap contain the third one; the later of them is its host. -/
example : forest [leaf "Inner" 3 1, leaf "Left" 0 5, leaf "Right" 2 6] =
    [leaf "Left" 0 5, ⟨"Right", 2, 6, [leaf "Inner" 3 1]⟩] := by cbv

end ScopeLexer.Scope
