import ScopeLexer.Outcome
import ScopeLexer.Proofs.Regex.Analyses

/-! Settling commutes with embedding. What a look-behind becomes is decided by lengths and by which
groups are used elsewhere, and both are the same in a larger pattern. -/

namespace ScopeLexer.Regex

namespace Pattern

variable {b n count : Nat} {p q whole : Pattern Nat}

/-! ### Questions about groups -/

theorem isUsed_shift (hp : p.Bounded n) {used used' : Nat → Bool}
    (h : ∀ i ≤ n, used' (b + i) = used i) : (p.shift b).isUsed used' = p.isUsed used := by
  induction p with
  | seq p q ihp ihq | alt p q ihp ihq =>
    show ((p.shift b).isUsed used' || (q.shift b).isUsed used') = _
    rw [ihp hp.1, ihq hp.2]
    rfl
  | loop p _ _ _ ih | atomic p ih | ahead _ p ih | behind _ p ih => exact ih hp
  | group i p ih =>
    show (used' (b + i) || (p.shift b).isUsed used') = _
    rw [h i hp.1.2, ih hp.2]
    rfl
  | _ => rfl

/-! ### Shortening -/

theorem leastLoop_shift (b : Nat) (p : Pattern Nat) :
    (p.shift b).leastLoop = p.leastLoop.shift b := by
  cases p with
  | loop p _ _ _ => cases p <;> rfl
  | _ => rfl

theorem Bounded.leastLoop (h : p.Bounded n) : p.leastLoop.Bounded n := by
  cases p with
  | loop p _ _ _ => cases p <;> exact h
  | _ => exact h

theorem cutFront_shift (b : Nat) (p : Pattern Nat) : (p.shift b).cutFront = p.cutFront.shift b := by
  induction p with
  | seq p q _ ih =>
    show (seq (p.shift b) (q.shift b)).cutFront = _
    rw [cutFront, cutFront, leastLoop_shift, ih]
    cases p.leastLoop with
    | loop r least most greedy =>
      cases least with
      | zero =>
        rcases most with _ | _ | _
        · rfl
        · rfl
        · rfl
      | succ least => rfl
    | _ => rfl
  | _ => exact leastLoop_shift b _

theorem Bounded.cutFront (h : p.Bounded n) : p.cutFront.Bounded n := by
  induction p with
  | seq p q _ ih =>
    have hp := h.1.leastLoop
    rw [Pattern.cutFront]
    split
    · next e =>
      rw [e] at hp
      exact ⟨hp, ih h.2⟩
    · exact ⟨hp, h.2⟩
  | _ => exact h.leastLoop

theorem cutFronts_shift (b : Nat) (p : Pattern Nat) :
    (p.shift b).cutFronts = p.cutFronts.shift b := by
  induction p with
  | alt p q _ ih =>
    show alt (p.shift b).cutFront (q.shift b).cutFronts = _
    rw [cutFront_shift, ih]
    rfl
  | _ => exact cutFront_shift b _

theorem Bounded.cutFronts (h : p.Bounded n) : p.cutFronts.Bounded n := by
  induction p with
  | alt p q _ ih => exact ⟨h.1.cutFront, ih h.2⟩
  | _ => exact h.cutFront

theorem branches_shift (b : Nat) (p : Pattern Nat) :
    (p.shift b).branches = p.branches.map (shift b) := by
  induction p with
  | alt p q _ ih =>
    show p.shift b :: (q.shift b).branches = _
    rw [ih]
    rfl
  | _ => rfl

theorem Bounded.branches (h : p.Bounded n) : ∀ q ∈ p.branches, q.Bounded n := by
  induction p with
  | alt p q _ ih =>
    intro r hr
    rcases List.mem_cons.1 hr with rfl | hr
    · exact h.1
    · exact ih h.2 r hr
  | _ =>
    intro r hr
    obtain rfl := List.mem_singleton.1 hr
    exact h

theorem repeated?_shift (b : Nat) (p : Pattern Nat) (least : Nat) (most : Option Nat) :
    (p.shift b).repeated? least most = p.repeated? least most := by
  cases p with
  | atom a => rfl
  | _ => rfl

/-! ### Look-behind -/

theorem lookBehind_of_ne_alt {reachOf : Pattern Nat → Reach} {used : Nat → Bool} {negated : Bool}
    (h : ∀ q rest, p ≠ alt q rest) :
    lookBehind reachOf used negated p =
      if (reachOf p).isTooLong then .error .badBehind
      else if (reachOf p).least = 0 ∧ (reachOf p).sure ∧ !p.isUsed used then
        .ok (if negated then fail else empty)
      else .ok (behind negated p) := by
  cases p with
  | alt q rest => exact absurd rfl (h q rest)
  | _ => rfl

theorem lookBehind_alt {reachOf : Pattern Nat → Reach} {used : Nat → Bool} {negated : Bool}
    {rest : Pattern Nat} :
    lookBehind reachOf used negated (alt q rest) =
      if (reachOf (alt q rest)).isTooLong then .error .badBehind
      else if (reachOf (alt q rest)).least = 0 ∧ (reachOf (alt q rest)).sure ∧
          !(alt q rest).isUsed used then
        .ok (if negated then fail else empty)
      else if !(reachOf (alt q rest)).isFixed ∧ rest.branches.all fun b => (reachOf b).isFixed then do
        let first ← lookBehind reachOf used negated q
        let others ← lookBehind reachOf used negated rest
        return if negated then seq first others else alt first others
      else .ok (behind negated (alt q rest)) := rfl

theorem lookBehind_shift (hp : p.Bounded n) {reachOf reachOf' : Pattern Nat → Reach}
    {used used' : Nat → Bool} (hreach : ∀ q, q.Bounded n → reachOf' (q.shift b) = reachOf q)
    (hused : ∀ i ≤ n, used' (b + i) = used i) (negated : Bool) :
    lookBehind reachOf' used' negated (p.shift b) =
      (lookBehind reachOf used negated p).map (shift b) := by
  induction p with
  | alt q rest ihq ihrest =>
    have hbranches : (rest.shift b).branches.all (fun r => (reachOf' r).isFixed) =
        rest.branches.all fun r => (reachOf r).isFixed := by
      rw [branches_shift, List.all_map, Bool.eq_iff_iff, List.all_eq_true, List.all_eq_true]
      refine forall₂_congr fun r hr => ?_
      rw [Function.comp_apply, hreach r (hp.2.branches r hr)]
    have halt : (alt q rest).shift b = alt (q.shift b) (rest.shift b) := rfl
    rw [lookBehind_alt, ← hreach _ hp, ← isUsed_shift hp hused, halt, lookBehind_alt, hbranches,
      ihq hp.1, ihrest hp.2]
    split
    · rfl
    · split
      · cases negated <;> rfl
      · split
        · cases lookBehind reachOf used negated q with
          | error e => rfl
          | ok q' =>
            cases lookBehind reachOf used negated rest with
            | error e => rfl
            | ok rest' => cases negated <;> rfl
        · rfl
  | _ =>
    rw [lookBehind_of_ne_alt (by simp [shift, renumber]), hreach _ hp, isUsed_shift hp hused,
      lookBehind_of_ne_alt (by simp)]
    split
    · rfl
    · split
      · cases negated <;> rfl
      · rfl

theorem Bounded.lookBehind (hp : p.Bounded n) {reachOf : Pattern Nat → Reach} {used : Nat → Bool}
    {negated : Bool} (h : Pattern.lookBehind reachOf used negated p = .ok q) : q.Bounded n := by
  have instead : ((if negated then fail else empty) : Pattern Nat).Bounded n := by
    cases negated <;> exact trivial
  induction p generalizing q with
  | alt r rest ihr ihrest =>
    rw [lookBehind_alt] at h
    split at h
    · simp at h
    · split at h
      · rw [← Except.ok.inj h]
        exact instead
      · split at h
        · obtain ⟨r', hr', h⟩ := bind_eq_ok.1 h
          obtain ⟨rest', hrest', h⟩ := bind_eq_ok.1 h
          have hr := ihr hp.1 hr'
          have hrest := ihrest hp.2 hrest'
          rw [← pure_eq_ok.1 h]
          cases negated <;> exact ⟨hr, hrest⟩
        · rw [← Except.ok.inj h]
          exact hp
  | _ =>
    rw [lookBehind_of_ne_alt (by simp)] at h
    split at h
    · simp at h
    · split at h
      · rw [← Except.ok.inj h]
        exact instead
      · rw [← Except.ok.inj h]
        exact hp

/-! ### Settled patterns -/

/-- A pattern that lies in the groups `inside` is settled as `q`, whatever groups are settled
before it. -/
def Settles (whole : Pattern Nat) (count : Nat) (inside : List Nat) (p q : Pattern Nat) : Prop :=
  ∃ s s', settle whole count inside p s = .ok (q, s')

theorem settle_bind {α β : Type} {x : StateT (List (Nat × Pattern Nat)) (Except Fault) α}
    {f : α → StateT (List (Nat × Pattern Nat)) (Except Fault) β}
    {s s' : List (Nat × Pattern Nat)} {y : β} :
    (x >>= f) s = .ok (y, s') ↔ ∃ a t, x s = .ok (a, t) ∧ f a t = .ok (y, s') := by
  refine bind_eq_ok.trans ⟨?_, ?_⟩
  · rintro ⟨⟨a, t⟩, hx, hf⟩
    exact ⟨a, t, hx, hf⟩
  · rintro ⟨a, t, hx, hf⟩
    exact ⟨(a, t), hx, hf⟩

theorem settle_pure {α : Type} {a y : α} {s s' : List (Nat × Pattern Nat)} :
    (pure a : StateT _ (Except Fault) α) s = .ok (y, s') ↔ a = y ∧ s = s' := by
  rw [← Prod.mk.injEq]
  exact pure_eq_ok

theorem Settles.seq {inside : List Nat} {r : Pattern Nat}
    (h : Settles whole count inside (.seq p q) r) :
    ∃ p' q', Settles whole count inside p p' ∧ Settles whole count inside q q' ∧ r = .seq p' q' := by
  obtain ⟨s, s', h⟩ := h
  obtain ⟨p', t, hp, h⟩ := settle_bind.1 h
  obtain ⟨q', t', hq, h⟩ := settle_bind.1 h
  exact ⟨p', q', ⟨s, t, hp⟩, ⟨t, t', hq⟩, (settle_pure.1 h).1.symm⟩

theorem Settles.alt {inside : List Nat} {r : Pattern Nat}
    (h : Settles whole count inside (.alt p q) r) :
    ∃ p' q', Settles whole count inside p p' ∧ Settles whole count inside q q' ∧ r = .alt p' q' := by
  obtain ⟨s, s', h⟩ := h
  obtain ⟨p', t, hp, h⟩ := settle_bind.1 h
  obtain ⟨q', t', hq, h⟩ := settle_bind.1 h
  exact ⟨p', q', ⟨s, t, hp⟩, ⟨t, t', hq⟩, (settle_pure.1 h).1.symm⟩

theorem Settles.loop {inside : List Nat} {least : Nat} {most : Option Nat} {greedy : Bool}
    {r : Pattern Nat} (h : Settles whole count inside (.loop p least most greedy) r) :
    ∃ p', Settles whole count inside p p' ∧
      r = match p'.repeated? least most with
        | some cs => .atom (.chars cs)
        | none => .loop p' least most greedy := by
  obtain ⟨s, s', h⟩ := h
  obtain ⟨p', t, hp, h⟩ := settle_bind.1 h
  exact ⟨p', ⟨s, t, hp⟩, (settle_pure.1 h).1.symm⟩

theorem Settles.group {inside : List Nat} {i : Nat} {r : Pattern Nat}
    (h : Settles whole count inside (.group i p) r) :
    ∃ p', Settles whole count (i :: inside) p p' ∧ r = .group i p' := by
  obtain ⟨s, s', h⟩ := h
  obtain ⟨p', t, hp, h⟩ := settle_bind.1 h
  obtain ⟨_, t', _, h⟩ := settle_bind.1 h
  exact ⟨p', ⟨s, t, hp⟩, (settle_pure.1 h).1.symm⟩

theorem Settles.atomic {inside : List Nat} {r : Pattern Nat}
    (h : Settles whole count inside (.atomic p) r) :
    ∃ p', Settles whole count inside p p' ∧ r = .atomic p' := by
  obtain ⟨s, s', h⟩ := h
  obtain ⟨p', t, hp, h⟩ := settle_bind.1 h
  exact ⟨p', ⟨s, t, hp⟩, (settle_pure.1 h).1.symm⟩

theorem Settles.ahead {inside : List Nat} {negated : Bool} {r : Pattern Nat}
    (h : Settles whole count inside (.ahead negated p) r) :
    ∃ p', Settles whole count inside p p' ∧ r = .ahead negated p' := by
  obtain ⟨s, s', h⟩ := h
  obtain ⟨p', t, hp, h⟩ := settle_bind.1 h
  exact ⟨p', ⟨s, t, hp⟩, (settle_pure.1 h).1.symm⟩

theorem Settles.behind {inside : List Nat} {negated : Bool} {r : Pattern Nat}
    (h : Settles whole count inside (.behind negated p) r) :
    ∃ p', Settles whole count inside p p' ∧
      lookBehind (·.reach (whole.groupReach (count + 1)) inside)
        (whole.called ++ whole.referred).contains negated p'.cutFronts = .ok r := by
  have unrefused : ∀ {c : Bool} {k : Unit → StateT (List (Nat × Pattern Nat)) (Except Fault)
      (Pattern Nat)} {s s' : List (Nat × Pattern Nat)},
      (if c = true then throw Fault.badBehind >>= k else k ()) s = .ok (r, s') →
        k () s = .ok (r, s') := by
    intro c k s s' h
    cases c with
    | false => exact h
    | true =>
      obtain ⟨_, _, h, _⟩ := settle_bind.1 h
      exact nomatch h
  obtain ⟨s, s', h⟩ := h
  obtain ⟨_, _, _, h⟩ := settle_bind.1 h
  have h := unrefused h
  obtain ⟨p', t, hp, h⟩ := settle_bind.1 h
  obtain ⟨_, _, _, h⟩ := settle_bind.1 h
  have h := unrefused h
  obtain ⟨r', hr, h⟩ := bind_eq_ok.1 h
  obtain rfl := (settle_pure.1 h).1
  exact ⟨p', ⟨_, t, hp⟩, hr⟩

theorem Settles.bounded {inside : List Nat} (hp : p.Bounded n)
    (h : Settles whole count inside p q) : q.Bounded n := by
  induction p generalizing inside q with
  | seq p₁ p₂ ih₁ ih₂ =>
    obtain ⟨q₁, q₂, h₁, h₂, rfl⟩ := h.seq
    exact ⟨ih₁ hp.1 h₁, ih₂ hp.2 h₂⟩
  | alt p₁ p₂ ih₁ ih₂ =>
    obtain ⟨q₁, q₂, h₁, h₂, rfl⟩ := h.alt
    exact ⟨ih₁ hp.1 h₁, ih₂ hp.2 h₂⟩
  | loop p least most greedy ih =>
    obtain ⟨q', hq, rfl⟩ := h.loop
    have hbody : q'.Bounded n := ih hp hq
    split
    · exact trivial
    · exact hbody
  | group i p ih =>
    obtain ⟨q', hq, rfl⟩ := h.group
    exact ⟨hp.1, ih hp.2 hq⟩
  | atomic p ih =>
    obtain ⟨q', hq, rfl⟩ := h.atomic
    have hbody : q'.Bounded n := ih hp hq
    exact hbody
  | ahead negated p ih =>
    obtain ⟨q', hq, rfl⟩ := h.ahead
    have hbody : q'.Bounded n := ih hp hq
    exact hbody
  | behind negated p ih =>
    obtain ⟨q', hq, hr⟩ := h.behind
    exact (ih hp hq).cutFronts.lookBehind hr
  | _ =>
    obtain ⟨s, s', h⟩ := h
    obtain rfl := (settle_pure.1 h).1
    exact hp

/-- A part of a pattern that settles both alone and in the whole settles in the same way. -/
theorem Settles.shift (e : Embeds b p n whole count) {q r r' : Pattern Nat} (hq : q.Bounded n)
    {inside : List Nat} (h : Settles p n inside q r)
    (h' : Settles whole count (inside.map (b + ·) ++ [0]) (q.shift b) r') : r' = r.shift b := by
  induction q generalizing inside r r' with
  | seq q₁ q₂ ih₁ ih₂ =>
    obtain ⟨r₁, r₂, h₁, h₂, rfl⟩ := h.seq
    obtain ⟨r₁', r₂', h₁', h₂', rfl⟩ := Settles.seq h'
    rw [ih₁ hq.1 h₁ h₁', ih₂ hq.2 h₂ h₂']
    rfl
  | alt q₁ q₂ ih₁ ih₂ =>
    obtain ⟨r₁, r₂, h₁, h₂, rfl⟩ := h.alt
    obtain ⟨r₁', r₂', h₁', h₂', rfl⟩ := Settles.alt h'
    rw [ih₁ hq.1 h₁ h₁', ih₂ hq.2 h₂ h₂']
    rfl
  | loop q least most greedy ih =>
    obtain ⟨r, hr, rfl⟩ := h.loop
    obtain ⟨r', hr', rfl⟩ := Settles.loop h'
    rw [ih hq hr hr', repeated?_shift]
    cases r.repeated? least most <;> rfl
  | group i q ih =>
    obtain ⟨r, hr, rfl⟩ := h.group
    obtain ⟨r', hr', rfl⟩ := Settles.group h'
    rw [ih hq.2 hr hr']
    rfl
  | atomic q ih =>
    obtain ⟨r, hr, rfl⟩ := h.atomic
    obtain ⟨r', hr', rfl⟩ := Settles.atomic h'
    rw [ih hq hr hr']
    rfl
  | ahead negated q ih =>
    obtain ⟨r, hr, rfl⟩ := h.ahead
    obtain ⟨r', hr', rfl⟩ := Settles.ahead h'
    rw [ih hq hr hr']
    rfl
  | behind negated q ih =>
    obtain ⟨r₁, hr₁, hr⟩ := h.behind
    obtain ⟨r₁', hr₁', hr'⟩ := Settles.behind h'
    have hused : ∀ i ≤ n, (whole.called ++ whole.referred).contains (b + i) =
        (p.called ++ p.referred).contains i := by
      intro i hi
      rw [Bool.eq_iff_iff, List.contains_iff_mem, List.contains_iff_mem, List.mem_append,
        List.mem_append, e.called i hi, e.referred i hi]
    have hbody : r₁.Bounded n := Settles.bounded (p := q) hq hr₁
    rw [ih hq hr₁ hr₁', cutFronts_shift, lookBehind_shift hbody.cutFronts
      (fun q hq => e.reach hq inside) hused, hr] at hr'
    exact (Except.ok.inj hr').symm
  | _ =>
    obtain ⟨s, s', h⟩ := h
    obtain rfl := (settle_pure.1 h).1
    obtain ⟨t, t', h'⟩ := h'
    exact (settle_pure.1 h').1.symm

/-! ### Settled branches -/

/-- A pattern with so many groups, and what it settles as alone. -/
def SettlesAlone (t t' : Pattern Nat × Nat) : Prop := t'.2 = t.2 ∧ Settles t.1 t.2 [0] t.1 t'.1

theorem SettlesAlone.bounded {t t' : Pattern Nat × Nat} (h : SettlesAlone t t')
    (ht : t.1.Bounded t.2) : t'.1.Bounded t'.2 := by
  rw [h.1]
  exact h.2.bounded ht

end Pattern

end ScopeLexer.Regex
