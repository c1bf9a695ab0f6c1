import Mathlib.Data.Finset.Card
import Mathlib.Data.Finset.Filter
import Mathlib.Data.Finset.Range
import ScopeLexer.Proofs.Regex.Embedding
import ScopeLexer.Regex.Behind

/-! What is found out about the groups of a pattern is found out about them in a larger one. The
larger pattern has more groups, so that more steps are spent on it; but steps beyond the number of
the pattern's own groups find nothing new. -/

namespace ScopeLexer.Regex

namespace Pattern

variable {b n count : Nat} {p whole : Pattern Nat}

/-! ### Bodies -/

theorem body?_eq_none (h : p.Bounded n) {i : Nat} (hi : n < i) : p.body? i = none := by
  have hz : i ≠ 0 := by omega
  rw [body?, if_neg hz, part?_eq_none]
  · rfl
  · intro hmem
    have := h.opened hmem
    omega

theorem body?_eq_place? (p : Pattern Nat) (i : Nat) : p.body? i = (p.place? i).map (·.2) := by
  unfold body? place?
  split <;> rfl

theorem Bounded.body? (h : p.Bounded n) {i : Nat} {q : Pattern Nat} (hq : p.body? i = some q) :
    q.Bounded n := by
  rw [body?_eq_place?] at hq
  obtain ⟨⟨js, q'⟩, hq', rfl⟩ := Option.map_eq_some_iff.1 hq
  exact h.place? hq'

theorem Embeds.body? (e : Embeds b p n whole count) {i : Nat} (hi : i ≤ n) :
    whole.body? (b + i) = (p.body? i).map (shift b) := by
  have hz : b + i ≠ 0 := by
    have := e.pos
    omega
  rw [Pattern.body?, if_neg hz, e.part i hi, body?_eq_place?]
  cases p.place? i <;> rfl

/-! ### Some text or none -/

theorem needsText_shift {known known' : Nat → Bool}
    (h : ∀ i, i ∈ p.called ∨ i ∈ p.referred → known' (b + i) = known i) :
    (p.shift b).needsText known' = p.needsText known := by
  induction p with
  | seq p q ihp ihq | alt p q ihp ihq =>
    simp only [Pattern.called, Pattern.referred, List.mem_append] at h
    have hp := ihp fun i hi => h i (hi.imp .inl .inl)
    have hq := ihq fun i hi => h i (hi.imp .inr .inr)
    rw [needsText, ← hp, ← hq]
    rfl
  | loop p _ _ _ ih =>
    rw [needsText, ← ih h]
    rfl
  | group _ p ih | atomic p ih => exact ih h
  | same groups inside _ _ =>
    have hall : (groups.map (b + ·)).all known' = groups.all known := by
      rw [List.all_map, Bool.eq_iff_iff, List.all_eq_true, List.all_eq_true]
      constructor
      · intro hk i hi
        exact (h i (.inr hi)) ▸ hk i hi
      · intro hk i hi
        exact (h i (.inr hi)).trans (hk i hi)
    show (!inside && (groups.map (b + ·)).all known') = (!inside && groups.all known)
    rw [hall]
  | call i => exact h i (.inl (by simp [Pattern.called]))
  | _ => rfl

theorem needsText_mono {known known' : Nat → Bool} (h : ∀ i, known i → known' i)
    (hp : p.needsText known) : p.needsText known' := by
  induction p with
  | atom a => rfl
  | seq p q ihp ihq =>
    rw [needsText, Bool.or_eq_true] at hp ⊢
    exact hp.imp ihp ihq
  | alt p q ihp ihq =>
    rw [needsText, Bool.and_eq_true] at hp ⊢
    exact hp.imp ihp ihq
  | loop p _ _ _ ih =>
    rw [needsText, Bool.and_eq_true] at hp ⊢
    exact hp.imp id ih
  | group _ p ih | atomic p ih => exact ih hp
  | same groups inside _ _ =>
    rw [needsText, Bool.and_eq_true, List.all_eq_true] at hp ⊢
    exact hp.imp id fun hk i hi => h i (hk i hi)
  | call i => exact h i hp
  | _ => exact hp

/-- What a table of so many steps says about a group. -/
def tableSays (p : Pattern Nat) (n steps i : Nat) : Bool := (p.textTable n steps)[i]?.getD false

theorem tableSays_zero (p : Pattern Nat) (n i : Nat) : p.tableSays n 0 i = false := rfl

theorem tableSays_succ {steps i : Nat} (hi : i ≤ n) :
    p.tableSays n (steps + 1) i = (p.body? i).any (·.needsText (p.tableSays n steps)) := by
  unfold tableSays
  have hr : (Array.range (n + 1))[i]? = some i := by
    rw [Array.getElem?_range, if_pos (by omega)]
  rw [textTable, Array.getElem?_map, hr]
  rfl

theorem tableSays_of_lt {steps i : Nat} (hi : n < i) : p.tableSays n steps i = false := by
  unfold tableSays
  cases steps with
  | zero => rfl
  | succ steps =>
    have hr : (Array.range (n + 1))[i]? = none := by
      rw [Array.getElem?_eq_none]
      rw [Array.size_range]
      exact hi
    rw [textTable, Array.getElem?_map, hr]
    rfl

theorem tableSays_mono {steps i : Nat} (h : p.tableSays n steps i) : p.tableSays n (steps + 1) i := by
  induction steps generalizing i with
  | zero => simp [tableSays_zero] at h
  | succ steps ih =>
    by_cases hi : i ≤ n
    · rw [tableSays_succ hi] at h ⊢
      rw [Option.any_eq_true] at h ⊢
      obtain ⟨q, hq, h⟩ := h
      exact ⟨q, hq, needsText_mono (fun i => ih) h⟩
    · rw [tableSays_of_lt (by omega)] at h
      simp at h

/-- A table either is complete or has grown with every step. -/
theorem tableSays_grows (p : Pattern Nat) (n steps : Nat) :
    p.tableSays n (steps + 1) = p.tableSays n steps ∨
      steps + 1 ≤ ((Finset.range (n + 1)).filter (p.tableSays n (steps + 1) ·)).card := by
  have grown : ∀ steps, p.tableSays n (steps + 1) ≠ p.tableSays n steps →
      ((Finset.range (n + 1)).filter (p.tableSays n steps ·)).card <
        ((Finset.range (n + 1)).filter (p.tableSays n (steps + 1) ·)).card := by
    intro steps hne
    obtain ⟨i, hi⟩ := Function.ne_iff.1 hne
    have hfalse : p.tableSays n steps i = false := by
      by_contra h
      rw [Bool.not_eq_false] at h
      exact hi (by rw [h, tableSays_mono h])
    have htrue : p.tableSays n (steps + 1) i = true := by
      rw [hfalse] at hi
      simpa using hi
    have hle : i < n + 1 := by
      by_contra h
      rw [tableSays_of_lt (by omega)] at htrue
      simp at htrue
    refine Finset.card_lt_card (Finset.ssubset_iff_subset_ne.2 ⟨?_, ?_⟩)
    · intro j hj
      rw [Finset.mem_filter] at hj ⊢
      exact ⟨hj.1, tableSays_mono hj.2⟩
    · intro heq
      have : i ∈ (Finset.range (n + 1)).filter (p.tableSays n steps ·) := by
        rw [heq, Finset.mem_filter, Finset.mem_range]
        exact ⟨hle, htrue⟩
      rw [Finset.mem_filter, hfalse] at this
      simp at this
  induction steps with
  | zero =>
    by_cases h : p.tableSays n 1 = p.tableSays n 0
    · exact .inl h
    · exact .inr (Nat.lt_of_le_of_lt (Nat.zero_le _) (grown 0 h))
  | succ steps ih =>
    by_cases h : p.tableSays n (steps + 2) = p.tableSays n (steps + 1)
    · exact .inl h
    · rcases ih with ih | ih
      · refine absurd (funext fun i => ?_) h
        by_cases hi : i ≤ n
        · rw [tableSays_succ hi, tableSays_succ hi, ih]
        · rw [tableSays_of_lt (by omega), tableSays_of_lt (by omega)]
      · exact .inr (Nat.lt_of_le_of_lt ih (grown _ h))

/-- A table of a step more than there are groups is complete. -/
theorem tableSays_stable (p : Pattern Nat) {n steps : Nat} (h : n + 1 ≤ steps) :
    p.tableSays n steps = p.tableSays n (n + 1) := by
  have hfix : p.tableSays n (n + 1 + 1) = p.tableSays n (n + 1) := by
    rcases tableSays_grows p n (n + 1) with h | h
    · exact h
    · have := Finset.card_filter_le (Finset.range (n + 1)) (p.tableSays n (n + 1 + 1) ·)
      rw [Finset.card_range] at this
      omega
  induction steps, h using Nat.le_induction with
  | base => rfl
  | succ steps _ ih =>
    funext i
    by_cases hi : i ≤ n
    · rw [tableSays_succ hi, ih, ← hfix, tableSays_succ hi, hfix]
    · rw [tableSays_of_lt (by omega), tableSays_of_lt (by omega)]

theorem Embeds.tableSays (e : Embeds b p n whole count) (steps : Nat) {i : Nat} (hi : i ≤ n) :
    whole.tableSays count steps (b + i) = p.tableSays n steps i := by
  induction steps generalizing i with
  | zero => rfl
  | succ steps ih =>
    have hle := e.le
    rw [tableSays_succ (by omega), tableSays_succ hi, e.body? hi]
    cases hq : p.body? i with
    | none => rfl
    | some q =>
      have hb := e.bounded.body? hq
      refine needsText_shift fun j hj => ih ?_
      rcases hj with hj | hj
      · exact hb.called hj
      · exact (hb.referred hj).2

/-- What is known about the groups that something refers to. -/
theorem Embeds.takesText (e : Embeds b p n whole count) {i : Nat}
    (hi : i ∈ p.called ∨ i ∈ p.referred) :
    whole.takesText count (b + i) = p.takesText n i := by
  have hle := e.le
  have hn : i ≤ n := by
    rcases hi with hi | hi
    · exact e.bounded.called hi
    · exact (e.bounded.referred hi).2
  have hp : (p.called.isEmpty && p.referred.isEmpty) = false := by
    rcases hi with hi | hi
    · simp [List.ne_nil_of_mem hi]
    · simp [List.ne_nil_of_mem hi]
  have hw : (whole.called.isEmpty && whole.referred.isEmpty) = false := by
    rcases hi with hi | hi
    · simp [List.ne_nil_of_mem ((e.called i hn).2 hi)]
    · simp [List.ne_nil_of_mem ((e.referred i hn).2 hi)]
  unfold Pattern.takesText
  simp only [hp, hw]
  show whole.tableSays count (count + 1) (b + i) = p.tableSays n (n + 1) i
  rw [e.tableSays _ hn, tableSays_stable p (by omega)]

/-! ### Lengths -/

/-- The lengths of a pattern hang on those of groups only in what surrounds them. -/
theorem reach_congr {f g : List Nat → Nat → Reach} {inside : List Nat}
    (h : ∀ js, inside ⊆ js → f js = g js) : p.reach f inside = p.reach g inside := by
  induction p generalizing inside with
  | seq p q ihp ihq | alt p q ihp ihq => rw [reach, ihp h, ihq h, reach]
  | loop p _ _ _ ih => rw [reach, ih h, reach]
  | atomic p ih => exact ih h
  | group i p ih =>
    rw [reach, ih fun js hjs => h js (List.Subset.trans (List.subset_cons_self i inside) hjs),
      reach]
  | same groups inner _ level =>
    unfold reach
    rw [h inside (List.Subset.refl _)]
  | call i =>
    unfold reach
    rw [h inside (List.Subset.refl _)]
  | _ => rfl

theorem reach_shift (hp : p.Bounded n) {f f' : List Nat → Nat → Reach}
    (h : ∀ js, ∀ i ≤ n, f' (js.map (b + ·) ++ [0]) (b + i) = f js i) (inside : List Nat) :
    (p.shift b).reach f' (inside.map (b + ·) ++ [0]) = p.reach f inside := by
  induction p generalizing inside with
  | seq p q ihp ihq =>
    show ((p.shift b).reach _ _).add ((q.shift b).reach _ _) = _
    rw [ihp hp.1, ihq hp.2]
    rfl
  | alt p q ihp ihq =>
    show ((p.shift b).reach _ _).merge ((q.shift b).reach _ _) = _
    rw [ihp hp.1, ihq hp.2]
    rfl
  | loop p least most _ ih =>
    show ((p.shift b).reach _ _).times least most = _
    rw [ih hp]
    rfl
  | atomic p ih => exact ih hp inside
  | group i p ih =>
    show { (p.shift b).reach f' ((i :: inside).map (b + ·) ++ [0]) with sure := false } = _
    rw [ih hp.2]
    rfl
  | same groups inner _ level =>
    have hmap : (groups.map (b + ·)).map (f' (inside.map (b + ·) ++ [0])) =
        groups.map (f inside) := by
      rw [List.map_map]
      exact List.map_congr_left fun i hi => h inside i (hp i hi).2
    show (same (groups.map (b + ·)) inner _ level).reach f' (inside.map (b + ·) ++ [0]) = _
    rw [reach, reach, hmap]
  | call i => exact h inside i hp
  | _ => rfl

/-- How many groups a list leaves out. -/
def missing (n : Nat) (inside : List Nat) : Nat :=
  ((Finset.range (n + 1)).filter (· ∉ inside)).card

theorem missing_le (n : Nat) (inside : List Nat) : missing n inside ≤ n + 1 := by
  have := Finset.card_filter_le (Finset.range (n + 1)) (· ∉ inside)
  rw [Finset.card_range] at this
  exact this

theorem missing_mono {inside js : List Nat} (h : inside ⊆ js) : missing n js ≤ missing n inside := by
  refine Finset.card_le_card fun i hi => ?_
  rw [Finset.mem_filter] at hi ⊢
  exact ⟨hi.1, fun hmem => hi.2 (h hmem)⟩

theorem missing_cons {inside : List Nat} {i : Nat} (hi : i ≤ n) (h : i ∉ inside) :
    missing n (i :: inside) < missing n inside := by
  refine Finset.card_lt_card (Finset.ssubset_iff_subset_ne.2 ⟨fun j hj => ?_, fun heq => ?_⟩)
  · rw [Finset.mem_filter, List.mem_cons, not_or] at hj
    rw [Finset.mem_filter]
    exact ⟨hj.1, hj.2.2⟩
  · have hmem : i ∈ (Finset.range (n + 1)).filter (· ∉ inside) := by
      rw [Finset.mem_filter, Finset.mem_range]
      exact ⟨Nat.lt_succ_of_le hi, h⟩
    rw [← heq, Finset.mem_filter] at hmem
    simp at hmem

theorem mem_of_missing {inside : List Nat} {i : Nat} (hi : i ≤ n) (h : missing n inside = 0) :
    i ∈ inside := by
  by_contra hmem
  have := missing_cons hi hmem
  omega

theorem le_of_body? (hp : p.Bounded n) {i : Nat} {q : Pattern Nat} (hq : p.body? i = some q) :
    i ≤ n := by
  by_contra hi
  rw [body?_eq_none hp (by omega)] at hq
  simp at hq

theorem groupReach_of_missing (hp : p.Bounded n) {inside : List Nat} (h : missing n inside = 0)
    (steps i : Nat) : p.groupReach steps inside i = .unknown := by
  cases steps with
  | zero => rfl
  | succ steps =>
    unfold groupReach
    cases hq : p.body? i with
    | none => rfl
    | some q =>
      have hmem := mem_of_missing (le_of_body? hp hq) h
      simp [hmem]

/-- More steps than there are groups left out find nothing new. -/
theorem groupReach_stable (hp : p.Bounded n) {steps steps' : Nat} {inside : List Nat}
    (h : missing n inside ≤ steps) (h' : missing n inside ≤ steps') :
    p.groupReach steps inside = p.groupReach steps' inside := by
  induction steps generalizing steps' inside with
  | zero =>
    funext i
    rw [groupReach_of_missing hp (by omega), groupReach_of_missing hp (by omega)]
  | succ steps ih =>
    funext i
    cases steps' with
    | zero => rw [groupReach_of_missing hp (by omega), groupReach_of_missing hp (by omega)]
    | succ steps' =>
      unfold groupReach
      cases hq : p.body? i with
      | none => rfl
      | some q =>
        by_cases hmem : i ∈ inside
        · simp [hmem]
        · have hless := missing_cons (le_of_body? hp hq) hmem
          have hreach : q.reach (p.groupReach steps) (i :: inside) =
              q.reach (p.groupReach steps') (i :: inside) := by
            refine reach_congr fun js hjs => ?_
            have := missing_mono (n := n) hjs
            exact ih (by omega) (by omega)
          simp only [hreach]

theorem contains_map_shift (hb : 1 ≤ b) (inside : List Nat) (i : Nat) :
    (inside.map (b + ·) ++ [0]).contains (b + i) = inside.contains i := by
  rw [Bool.eq_iff_iff, List.contains_iff_mem, List.contains_iff_mem]
  simp
  omega

theorem Embeds.groupReach (e : Embeds b p n whole count) (steps : Nat) (inside : List Nat) {i : Nat}
    (hi : i ≤ n) :
    whole.groupReach steps (inside.map (b + ·) ++ [0]) (b + i) = p.groupReach steps inside i := by
  induction steps generalizing inside i with
  | zero => rfl
  | succ steps ih =>
    have hpos := e.pos
    have hmem := contains_map_shift hpos inside i
    unfold Pattern.groupReach
    rw [e.body? hi]
    cases hq : p.body? i with
    | none => rfl
    | some q =>
      have hreach := reach_shift (e.bounded.body? hq) (fun js j hj => ih js hj) (i :: inside)
      simp only [Option.map_some, hmem]
      exact congrArg (fun r : Reach => if inside.contains i then .unknown
        else { r with sure := false }) hreach

/-- The lengths of a part of the pattern in the whole. -/
theorem Embeds.reach (e : Embeds b p n whole count) {q : Pattern Nat} (hq : q.Bounded n)
    (inside : List Nat) :
    (q.shift b).reach (whole.groupReach (count + 1)) (inside.map (b + ·) ++ [0]) =
      q.reach (p.groupReach (n + 1)) inside := by
  have hle := e.le
  refine (reach_shift hq (fun js i hi => e.groupReach (count + 1) js hi) inside).trans ?_
  refine reach_congr fun js _ => ?_
  have := missing_le n js
  exact groupReach_stable e.bounded (by omega) (by omega)

/-! ### Calls -/

theorem eraseDups_map (is : List Nat) :
    (is.map (b + ·)).eraseDups = is.eraseDups.map (b + ·) := by
  induction hn : is.length using Nat.strongRecOn generalizing is with
  | ind m ih =>
    cases is with
    | nil => rfl
    | cons i is =>
      have hfilter : (is.map (b + ·)).filter (fun j => !j == b + i) =
          (is.filter fun j => !j == i).map (b + ·) := by
        rw [List.filter_map]
        refine congrArg (List.map _) (List.filter_congr fun j _ => ?_)
        simp
      have hlen := List.length_filter_le (fun j => !j == i) is
      rw [List.length_cons] at hn
      rw [List.map_cons, List.eraseDups_cons, List.eraseDups_cons, hfilter,
        ih _ (by omega) _ rfl]
      rfl

theorem nodup_eraseDups (is : List Nat) : is.eraseDups.Nodup := by
  induction hn : is.length using Nat.strongRecOn generalizing is with
  | ind m ih =>
    cases is with
    | nil => exact List.nodup_nil
    | cons i is =>
      have hlen := List.length_filter_le (fun j => !j == i) is
      rw [List.length_cons] at hn
      rw [List.eraseDups_cons, List.nodup_cons]
      refine ⟨fun hmem => ?_, ih _ (by omega) _ rfl⟩
      rw [List.mem_eraseDups, List.mem_filter] at hmem
      simp at hmem

theorem length_le_of_nodup {is : List Nat} (hn : is.Nodup) (h : ∀ i ∈ is, i ≤ n) :
    is.length ≤ n + 1 := by
  have hsub : is ⊆ List.range (n + 1) := fun i hi => List.mem_range.2 (Nat.lt_succ_of_le (h i hi))
  have := (List.subperm_of_subset hn hsub).length_le
  rwa [List.length_range] at this

/-- Some groups with those that they call. -/
def withCallees (p : Pattern Nat) (is : List Nat) : List Nat :=
  (is ++ (is.filterMap p.body?).flatMap Pattern.called).eraseDups

theorem callees_succ (p : Pattern Nat) (steps : Nat) (is : List Nat) :
    p.callees (steps + 1) is =
      if (p.withCallees is).length ≤ is.length then is else p.callees steps (p.withCallees is) := rfl

theorem withCallees_le (hp : p.Bounded n) {is : List Nat} (h : ∀ i ∈ is, i ≤ n) :
    ∀ i ∈ p.withCallees is, i ≤ n := by
  intro i hi
  rw [withCallees, List.mem_eraseDups, List.mem_append] at hi
  rcases hi with hi | hi
  · exact h i hi
  · obtain ⟨q, hq, hi⟩ := List.mem_flatMap.1 hi
    obtain ⟨j, _, hj⟩ := List.mem_filterMap.1 hq
    exact (hp.body? hj).called hi

theorem nodup_withCallees (p : Pattern Nat) (is : List Nat) : (p.withCallees is).Nodup :=
  nodup_eraseDups _

/-- All groups call no further ones. -/
theorem callees_full (hp : p.Bounded n) {is : List Nat} (hle : ∀ i ∈ is, i ≤ n)
    (h : n + 1 ≤ is.length) (steps : Nat) : p.callees steps is = is := by
  cases steps with
  | zero => rfl
  | succ steps =>
    have hlen := length_le_of_nodup (p.nodup_withCallees is) (withCallees_le hp hle)
    rw [callees_succ, if_pos (Nat.le_trans hlen h)]

/-- More steps than there are groups left find no further callees. -/
theorem callees_stable (hp : p.Bounded n) {steps steps' : Nat} {is : List Nat}
    (hle : ∀ i ∈ is, i ≤ n) (h : n + 1 ≤ is.length + steps) (h' : n + 1 ≤ is.length + steps') :
    p.callees steps is = p.callees steps' is := by
  induction steps generalizing steps' is with
  | zero => rw [callees_full hp hle (by omega), callees_full hp hle (by omega)]
  | succ steps ih =>
    cases steps' with
    | zero => rw [callees_full hp hle (by omega), callees_full hp hle (by omega)]
    | succ steps' =>
      rw [callees_succ, callees_succ]
      split
      · rfl
      · exact ih (withCallees_le hp hle) (by omega) (by omega)

theorem Embeds.withCallees (e : Embeds b p n whole count) {is : List Nat} (h : ∀ i ∈ is, i ≤ n) :
    whole.withCallees (is.map (b + ·)) = (p.withCallees is).map (b + ·) := by
  have hbody : (is.map (b + ·)).filterMap whole.body? = (is.filterMap p.body?).map (shift b) := by
    rw [List.filterMap_map, List.map_filterMap]
    exact List.filterMap_congr fun i hi => e.body? (h i hi)
  have hcalled : ((is.filterMap p.body?).map (shift b)).flatMap Pattern.called =
      ((is.filterMap p.body?).flatMap Pattern.called).map (b + ·) := by
    rw [List.flatMap_map, List.map_flatMap]
    exact congrArg (List.flatMap · _) (funext (called_shift b))
  unfold Pattern.withCallees
  rw [hbody, hcalled, ← List.map_append, eraseDups_map]

theorem Embeds.callees (e : Embeds b p n whole count) (steps : Nat) {is : List Nat}
    (h : ∀ i ∈ is, i ≤ n) :
    whole.callees steps (is.map (b + ·)) = (p.callees steps is).map (b + ·) := by
  induction steps generalizing is with
  | zero => rfl
  | succ steps ih =>
    rw [callees_succ, callees_succ, e.withCallees h, List.length_map, List.length_map]
    split
    · rfl
    · exact ih (withCallees_le e.bounded h)

/-- Calls of groups come to the same groups in the whole. -/
theorem Embeds.comesTo (e : Embeds b p n whole count) {is : List Nat} (h : ∀ i ∈ is, i ≤ n)
    (inside : List Nat) :
    whole.comesTo count (is.map (b + ·)) (inside.map (b + ·) ++ [0]) = p.comesTo n is inside := by
  have hle := e.le
  have hdups : ∀ i ∈ is.eraseDups, i ≤ n := fun i hi => h i (List.mem_eraseDups.1 hi)
  have hstable : p.callees (count + 1) is.eraseDups = p.callees (n + 1) is.eraseDups :=
    callees_stable e.bounded hdups (by omega) (by omega)
  unfold Pattern.comesTo
  rw [eraseDups_map, e.callees _ hdups, hstable, List.any_map]
  exact congrArg (List.any _) (funext fun i => contains_map_shift e.pos inside i)

end Pattern

end ScopeLexer.Regex
