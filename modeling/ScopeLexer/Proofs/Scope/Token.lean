import Mathlib.Data.List.Pairwise
import ScopeLexer.Proofs.Scope.Preorder
import ScopeLexer.Proofs.Sorting
import ScopeLexer.Scope.Token

/-! Where the tokens of a forest begin and end: at the ends of scopes and of the text, each token
behind the one before it, so that every byte of the text lies in one token. No scope begins or ends
inside a token; a scope that covers one of its bytes covers all of them. -/

namespace ScopeLexer.Scope

theorem mem_dedup {x : Nat} {xs : List Nat} : x ∈ dedup xs ↔ x ∈ xs := by
  fun_induction dedup xs with
  | case1 a rest ih => simp [ih]
  | case2 a b rest h ih => simp [ih]
  | case3 rest h => rfl

/-- A sorted list without repetitions increases strictly. -/
theorem dedup_increasing {xs : List Nat} (h : xs.Pairwise (· ≤ ·)) :
    (dedup xs).Pairwise (· < ·) := by
  fun_induction dedup xs with
  | case1 a rest ih => exact ih h.of_cons
  | case2 a b rest hne ih =>
    obtain ⟨ha, hb⟩ := List.pairwise_cons.1 h
    refine List.pairwise_cons.2 ⟨fun x hx => ?_, ih hb⟩
    have hab := ha b (by simp)
    rcases List.mem_cons.1 (mem_dedup.1 hx) with rfl | hx
    · omega
    · have := (List.pairwise_cons.1 hb).1 x hx
      omega
  | case3 rest hrest =>
    match rest with
    | [] => exact .nil
    | [a] => exact List.pairwise_singleton _ a
    | a :: b :: rest => exact absurd rfl (hrest a b rest)

/-- Cuts do not need the paths of a walk. -/
theorem flatMap_ends (roots : List Scope) (length : Nat) :
    ((roots.flatMap (·.walk.toList)).flatMap fun (_, s) =>
      [min s.start length, min s.stop length]) =
        (preorderAll roots).flatMap fun s => [min s.start length, min s.stop length] := by
  have hwalk : (roots.flatMap (·.walk.toList)).map (·.2) = preorderAll roots := by
    simp only [List.map_flatMap, scopes_walk, preorderAll_eq_flatMap]
  rw [← hwalk, List.flatMap_map]

theorem mem_cuts {roots : List Scope} {length x : Nat} : x ∈ cuts roots length ↔
    x = 0 ∨ x = length ∨ ∃ s ∈ preorderAll roots, x = min s.start length ∨ x = min s.stop length := by
  rw [cuts, mem_dedup, List.mem_mergeSort, flatMap_ends]
  simp

theorem cut_le {roots : List Scope} {length x : Nat} (h : x ∈ cuts roots length) : x ≤ length := by
  rcases mem_cuts.1 h with rfl | rfl | ⟨s, -, rfl | rfl⟩ <;> omega

theorem cuts_increasing (roots : List Scope) (length : Nat) :
    (cuts roots length).Pairwise (· < ·) :=
  dedup_increasing (sorted_mergeSort id _)

/-- The first cut is the start of the text, and the last one its end. -/
theorem cuts_ends (roots : List Scope) (length : Nat) :
    ∃ xs, cuts roots length = 0 :: xs ∧ (0 :: xs).getLast (List.cons_ne_nil 0 xs) = length := by
  have hinc := cuts_increasing roots length
  have hle : ∀ x ∈ cuts roots length, x ≤ length := fun _ => cut_le
  have hzero : 0 ∈ cuts roots length := mem_cuts.2 (.inl rfl)
  have hlength : length ∈ cuts roots length := mem_cuts.2 (.inr (.inl rfl))
  cases hcuts : cuts roots length with
  | nil => simp [hcuts] at hzero
  | cons x xs =>
    rw [hcuts] at hinc hle hzero hlength
    obtain rfl : x = 0 := by
      rcases List.mem_cons.1 hzero with h | h
      · exact h.symm
      · have := (List.pairwise_cons.1 hinc).1 0 h
        omega
    refine ⟨xs, rfl, Nat.le_antisymm (hle _ (List.getLast_mem _)) ?_⟩
    exact (hinc.imp Nat.le_of_lt).rel_getLast hlength

theorem mem_zip_tail {R : Nat → Nat → Prop} {xs : List Nat} (h : xs.Pairwise R) {a b : Nat}
    (hab : (a, b) ∈ xs.zip xs.tail) : a ∈ xs ∧ b ∈ xs ∧ R a b := by
  induction xs with
  | nil => simp at hab
  | cons x xs ih =>
    obtain ⟨hx, hxs⟩ := List.pairwise_cons.1 h
    cases xs with
    | nil => simp at hab
    | cons y ys =>
      rcases List.mem_cons.1 hab with hab | hab
      · obtain ⟨rfl, rfl⟩ := Prod.mk.inj hab
        exact ⟨by simp, by simp, hx b (by simp)⟩
      · obtain ⟨ha, hb, hr⟩ := ih hxs hab
        exact ⟨List.mem_cons_of_mem _ ha, List.mem_cons_of_mem _ hb, hr⟩

/-- A token takes some text, and lies between two cuts. -/
theorem token_cuts {roots : List Scope} {length : Nat} {t : Token} (h : t ∈ flatten roots length) :
    t.start ∈ cuts roots length ∧ t.stop ∈ cuts roots length ∧ t.start < t.stop := by
  obtain ⟨⟨a, b⟩, hab, rfl⟩ := List.mem_map.1 h
  exact mem_zip_tail (cuts_increasing roots length) hab

/-! ### Bytes -/

/-- Neighbours in an increasing list have nothing of the list between them. -/
theorem zip_tail_apart {xs : List Nat} (h : xs.Pairwise (· < ·)) {a b x : Nat}
    (hab : (a, b) ∈ xs.zip xs.tail) (hx : x ∈ xs) : x ≤ a ∨ b ≤ x := by
  induction xs with
  | nil => simp at hx
  | cons y ys ih =>
    obtain ⟨hy, hys⟩ := List.pairwise_cons.1 h
    cases ys with
    | nil => simp at hab
    | cons z zs =>
      have hz := (List.pairwise_cons.1 hys).1
      rcases List.mem_cons.1 hab with hfirst | hrest
      · obtain ⟨rfl, rfl⟩ := Prod.mk.inj hfirst
        rcases List.mem_cons.1 hx with rfl | hx
        · left; omega
        · rcases List.mem_cons.1 hx with rfl | hx
          · right; omega
          · have := hz x hx
            right; omega
      · rcases List.mem_cons.1 hx with rfl | hx
        · have := hy a (mem_zip_tail hys hrest).1
          left; omega
        · exact ih hys hrest hx

/-- Between two members of an increasing list every number has neighbours in the list. -/
theorem exists_zip_tail {xs : List Nat} (h : xs.Pairwise (· < ·)) {a b p : Nat} (ha : a ∈ xs)
    (hb : b ∈ xs) (hap : a ≤ p) (hpb : p < b) :
    ∃ x y, (x, y) ∈ xs.zip xs.tail ∧ x ≤ p ∧ p < y := by
  induction xs generalizing a with
  | nil => simp at ha
  | cons x xs ih =>
    obtain ⟨hx, hxs⟩ := List.pairwise_cons.1 h
    cases xs with
    | nil =>
      simp only [List.mem_singleton] at ha hb
      omega
    | cons y ys =>
      have hxy := hx y (by simp)
      by_cases hpy : p < y
      · have hxa : x ≤ a := by
          rcases List.mem_cons.1 ha with rfl | ha
          · omega
          · have := hx a ha
            omega
        exact ⟨x, y, by simp, by omega, hpy⟩
      · have hb : b ∈ y :: ys := (List.mem_cons.1 hb).resolve_left (by omega)
        obtain ⟨u, v, huv, hup, hpv⟩ := ih hxs List.mem_cons_self hb (by omega)
        exact ⟨u, v, List.mem_cons_of_mem _ huv, hup, hpv⟩

theorem exists_token {roots : List Scope} {length p : Nat} (hp : p < length) :
    ∃ t ∈ flatten roots length, t.start ≤ p ∧ p < t.stop := by
  have hlength : length ∈ cuts roots length := mem_cuts.2 (.inr (.inl rfl))
  obtain ⟨a, b, hab, hap, hpb⟩ := exists_zip_tail (cuts_increasing roots length)
    (mem_cuts.2 (.inl rfl)) hlength (Nat.zero_le p) hp
  exact ⟨_, List.mem_map_of_mem hab, hap, hpb⟩

/-- Two tokens with a byte in common are one. -/
theorem token_unique {roots : List Scope} {length p : Nat} {t u : Token}
    (ht : t ∈ flatten roots length) (hu : u ∈ flatten roots length) (htp : t.start ≤ p)
    (hpt : p < t.stop) (hup : u.start ≤ p) (hpu : p < u.stop) : u = t := by
  obtain ⟨⟨a, b⟩, hab, rfl⟩ := List.mem_map.1 ht
  obtain ⟨⟨c, d⟩, hcd, rfl⟩ := List.mem_map.1 hu
  have hinc := cuts_increasing roots length
  obtain ⟨ha, hb, -⟩ := mem_zip_tail hinc hab
  obtain ⟨hc, hd, -⟩ := mem_zip_tail hinc hcd
  have hac := zip_tail_apart hinc hab hc
  have had := zip_tail_apart hinc hab hd
  have hca := zip_tail_apart hinc hcd ha
  have hcb := zip_tail_apart hinc hcd hb
  simp only at htp hpt hup hpu
  obtain rfl : a = c := by omega
  obtain rfl : b = d := by omega
  rfl

theorem token_scopes {roots : List Scope} {length : Nat} {t : Token} (h : t ∈ flatten roots length) :
    t.scopes = descend (fun s => s.start ≤ t.start && t.stop ≤ s.stop) roots := by
  obtain ⟨⟨a, b⟩, -, rfl⟩ := List.mem_map.1 h
  rfl

/-- The bytes of a scope, seen from one byte of the text. -/
def covers (p : Nat) (s : Scope) : Bool := s.start ≤ p && p < s.stop

theorem covers_iff {p : Nat} {s : Scope} : covers p s ↔ s.start ≤ p ∧ p < s.stop := by
  rw [covers, Bool.and_eq_true, decide_eq_true_eq, decide_eq_true_eq]

/-- A scope covers a token if it covers a byte of it. -/
theorem token_covered {roots : List Scope} {length p : Nat} {t : Token}
    (ht : t ∈ flatten roots length) (htp : t.start ≤ p) (hpt : p < t.stop) {s : Scope}
    (hs : s ∈ preorderAll roots) : (s.start ≤ t.start && t.stop ≤ s.stop) = covers p s := by
  obtain ⟨⟨a, b⟩, hab, rfl⟩ := List.mem_map.1 ht
  have hinc := cuts_increasing roots length
  have hstart := zip_tail_apart hinc hab (mem_cuts.2 (.inr (.inr ⟨s, hs, .inl rfl⟩)))
  have hstop := zip_tail_apart hinc hab (mem_cuts.2 (.inr (.inr ⟨s, hs, .inr rfl⟩)))
  have hlength := cut_le (mem_zip_tail hinc hab).2.1
  simp only at htp hpt ⊢
  rw [Bool.eq_iff_iff, covers_iff, Bool.and_eq_true, decide_eq_true_eq, decide_eq_true_eq]
  omega

end ScopeLexer.Scope
