import Mathlib.Data.List.Forall2
import ScopeLexer.Proofs.Regex.Coding

/-! Threads that run side by side. One runs through a pattern alone, the other through the same
pattern in group `b` of a larger one. Whatever happens to a group in the first happens to the shifted
group in the second; besides, the second opens and closes group `b` itself. So what is read from the
two trails is the same. -/

namespace ScopeLexer.Regex

namespace Event

/-- What happens to the group that is numbered behind `b`. -/
def shift (b : Nat) : Event → Event
  | opened g pos => opened (b + g) pos
  | closed g start stop => closed (b + g) start stop
  | called => called
  | returned => returned

/-- The group of an event is one of the first `n`. -/
def Bounded (n : Nat) : Event → Prop
  | opened g _ | closed g _ _ => 1 ≤ g ∧ g ≤ n
  | _ => True

end Event

/-- Two trails go on side by side from `s` and `s'`. -/
inductive Grows (b n : Nat) (s s' : List Event) : List Event → List Event → Prop
  | refl : Grows b n s s' s s'
  | both {t t'} (e : Event) : e.Bounded n → Grows b n s s' t t' →
      Grows b n s s' (e :: t) (e.shift b :: t')
  | opened {t t'} (pos : Nat) : Grows b n s s' t t' → Grows b n s s' t (.opened b pos :: t')
  | closed {t t'} (start stop : Nat) : Grows b n s s' t t' →
      Grows b n s s' t (.closed b start stop :: t')

/-- Two trails that were side by side from the start. -/
abbrev Trails (b n : Nat) : List Event → List Event → Prop := Grows b n [] []

section

variable {b n : Nat} {s s' t t' u u' : List Event} {g : Nat}

theorem Grows.trans (h : Grows b n s s' t t') (k : Grows b n t t' u u') : Grows b n s s' u u' := by
  induction k with
  | refl => exact h
  | both e he _ ih => exact .both e he ih
  | opened pos _ ih => exact .opened pos ih
  | closed start stop _ ih => exact .closed start stop ih

theorem Grows.length (h : Grows b n s s' t t') : s.length ≤ t.length ∧ s'.length ≤ t'.length := by
  induction h with
  | refl => exact ⟨Nat.le_refl _, Nat.le_refl _⟩
  | both e _ _ ih => exact ⟨Nat.le_succ_of_le ih.1, Nat.le_succ_of_le ih.2⟩
  | opened _ _ ih | closed _ _ _ ih => exact ⟨ih.1, Nat.le_succ_of_le ih.2⟩

/-! ### Groups -/

theorem Trails.spanIn (h : Trails b n t t') (hg : 1 ≤ g) :
    Thread.spanIn (b + g) t' = Thread.spanIn g t := by
  induction h with
  | refl => rfl
  | both e _ _ ih =>
    cases e with
    | opened k pos =>
      simp only [Event.shift, Thread.spanIn, Nat.add_left_cancel_iff, ih]
    | closed k start stop =>
      simp only [Event.shift, Thread.spanIn, Nat.add_left_cancel_iff, ih]
    | called | returned => exact ih
  | opened pos _ ih | closed _ _ _ ih =>
    rw [Thread.spanIn, if_neg (by omega), ih]

theorem rel_or {α β : Type} {R : α → β → Prop} {x y : Option α} {x' y' : Option β}
    (h : Option.Rel R x x') (k : Option.Rel R y y') : Option.Rel R (x.or y) (x'.or y') := by
  cases h with
  | none => exact k
  | some h => exact .some h

theorem length_cons_sub (e : Event) (h : s.length ≤ t.length) :
    (e :: t).length - s.length = t.length - s.length + 1 := by
  rw [List.length_cons]
  omega

theorem Grows.firstOpening (hs : Trails b n s s') (h : Grows b n s s' t t') (hg : 1 ≤ g) :
    Option.Rel (fun x x' => x'.1 = x.1 ∧ Trails b n x.2 x'.2)
      (Thread.firstOpening g (t.length - s.length) t)
      (Thread.firstOpening (b + g) (t'.length - s'.length) t') := by
  induction h with
  | refl =>
    rw [Nat.sub_self, Nat.sub_self]
    exact .none
  | @both t t' e _ h ih =>
    rw [length_cons_sub _ h.length.1, length_cons_sub _ h.length.2]
    refine rel_or ih ?_
    cases e with
    | opened k pos =>
      show Option.Rel _ (if k = g then some (pos, t) else none)
        (if b + k = b + g then some (pos, t') else none)
      simp only [Nat.add_left_cancel_iff]
      split
      · exact .some ⟨rfl, hs.trans h⟩
      · exact .none
    | closed | called | returned => exact .none
  | @opened t t' pos h ih =>
    have hne : b ≠ b + g := by omega
    rw [length_cons_sub _ h.length.2]
    show Option.Rel _ _ (Option.or _ (if b = b + g then some (pos, t') else none))
    rw [if_neg hne, Option.or_none]
    exact ih
  | @closed t t' start stop h ih =>
    rw [length_cons_sub _ h.length.2]
    show Option.Rel _ _ (Option.or _ none)
    rw [Option.or_none]
    exact ih

theorem changed_closed {k start stop count : Nat} {trail : List Event} :
    Thread.changed g (count + 1) (.closed k start stop :: trail) =
      if k ≠ g then Thread.changed g count trail
      else (Thread.firstOpening g count trail).any fun (start, before) =>
        match Thread.spanIn g before with
        | none => true
        | some (a, b) => (a, b) ≠ (start, stop) && !(a = b && start = stop) := rfl

theorem Grows.changed (hs : Trails b n s s') (h : Grows b n s s' t t') (hg : 1 ≤ g) :
    Thread.changed (b + g) (t'.length - s'.length) t' =
      Thread.changed g (t.length - s.length) t := by
  induction h with
  | refl =>
    rw [Nat.sub_self, Nat.sub_self]
    rfl
  | @both t t' e _ h ih =>
    rw [length_cons_sub _ h.length.1, length_cons_sub _ h.length.2]
    cases e with
    | closed k start stop =>
      have hfirst := Grows.firstOpening hs h hg
      rw [Event.shift, changed_closed, changed_closed]
      by_cases hk : k = g
      · rw [if_neg (not_not_intro (congrArg (b + ·) hk)), if_neg (not_not_intro hk)]
        generalize Thread.firstOpening g (t.length - s.length) t = x at hfirst ⊢
        generalize Thread.firstOpening (b + g) (t'.length - s'.length) t' = x' at hfirst ⊢
        cases hfirst with
        | none => rfl
        | @some x x' hx =>
          obtain ⟨start, before⟩ := x
          obtain ⟨start', before'⟩ := x'
          obtain ⟨rfl, hbefore⟩ : start' = start ∧ Trails b n before before' := hx
          simp only [Option.any_some, hbefore.spanIn hg]
      · rw [if_pos fun h => hk (Nat.add_left_cancel h), if_pos hk, ih]
    | opened | called | returned => exact ih
  | @opened t t' pos h ih =>
    rw [length_cons_sub _ h.length.2]
    exact ih
  | @closed t t' start stop h ih =>
    have hne : b ≠ b + g := by omega
    rw [length_cons_sub _ h.length.2, changed_closed, if_pos hne]
    exact ih

theorem contains_shift (groups : List Nat) (g : Nat) :
    (groups.map (b + ·)).contains (b + g) = groups.contains g := by
  rw [Bool.eq_iff_iff, List.contains_iff_mem, List.contains_iff_mem]
  simp

theorem not_contains_shift {groups : List Nat} (h : ∀ i ∈ groups, 1 ≤ i) :
    ¬(groups.map (b + ·)).contains b = true := by
  intro hb
  obtain ⟨i, hi, e⟩ := List.mem_map.1 (List.contains_iff_mem.1 hb)
  have := h i hi
  omega

theorem Trails.spanAtLevel (h : Trails b n t t') {groups : List Nat} (hg : ∀ i ∈ groups, 1 ≤ i)
    (level : Int) (stop : Option Nat) :
    Thread.spanAtLevel (groups.map (b + ·)) level stop t' =
      Thread.spanAtLevel groups level stop t := by
  induction h generalizing level stop with
  | refl => rfl
  | both e _ _ ih =>
    cases e with
    | opened k pos =>
      simp only [Event.shift, Thread.spanAtLevel, contains_shift, ih]
    | closed k start stop =>
      simp only [Event.shift, Thread.spanAtLevel, contains_shift, ih]
    | called | returned => exact ih _ _
  | @opened t t' pos _ ih =>
    cases stop with
    | none => exact ih _ _
    | some e =>
      show (if level = 0 ∧ (groups.map (b + ·)).contains b = true then some (pos, e)
        else Thread.spanAtLevel _ level (some e) t') = _
      rw [if_neg fun h => not_contains_shift hg h.2, ih]
  | @closed t t' start stop' _ ih =>
    show Thread.spanAtLevel _ level
      (if level = 0 ∧ (groups.map (b + ·)).contains b = true then some stop' else stop) t' = _
    rw [if_neg fun h => not_contains_shift hg h.2, ih]

end

/-! ### Threads -/

/-- Turns that happened side by side in threads with the trails `t` and `t'`. -/
inductive Turn.Paired (b n : Nat) (f : Nat × Nat → Nat × Nat) (t t' : List Event) :
    Turn → Turn → Prop
  | began {s s'} (loop : Nat × Nat) (pos : Nat) : Trails b n s s' → Grows b n s s' t t' →
      Paired b n f t t' (.began loop pos s) (.began (f loop) pos s')
  | wentOn (loop : Nat × Nat) : Paired b n f t t' (.wentOn loop) (.wentOn (f loop))

/-- The places and trails at which two turns began, in threads with the trails `t` and `t'`. -/
def BeganPaired (b n : Nat) (t t' : List Event) (x x' : Nat × List Event) : Prop :=
  x'.1 = x.1 ∧ Trails b n x.2 x'.2 ∧ Grows b n x.2 x'.2 t t'

/-- Threads that run side by side. -/
structure Thread.Paired (b n : Nat) (f : Nat × Nat → Nat × Nat) (t t' : Thread) : Prop where
  pos : t'.pos = t.pos
  kept : t'.kept = t.kept
  limit : t'.limit = t.limit
  trail : Trails b n t.trail t'.trail
  turns : List.Forall₂ (Turn.Paired b n f t.trail t'.trail) t.turns t'.turns

section

variable {b n : Nat} {f : Nat × Nat → Nat × Nat} {t t' u u' : Thread}

theorem Turn.Paired.mono {s s' r r' : List Event} {x x' : Turn} (h : Grows b n s s' r r')
    (hx : Turn.Paired b n f s s' x x') : Turn.Paired b n f r r' x x' := by
  cases hx with
  | began loop pos hs hgrows => exact .began loop pos hs (hgrows.trans h)
  | wentOn loop => exact .wentOn loop

namespace Thread.Paired

theorem start (b n : Nat) (f : Nat × Nat → Nat × Nat) (pos limit : Nat) :
    Paired b n f (.start pos limit) (.start pos limit) := ⟨rfl, rfl, rfl, .refl, .nil⟩

theorem moveTo (h : Paired b n f t t') (i : Nat) : Paired b n f (t.moveTo i) (t'.moveTo i) :=
  ⟨rfl, h.kept, h.limit, h.trail, h.turns⟩

/-- The turns of earlier threads are still side by side. -/
theorem withTurns (h : Paired b n f t t') (hu : Paired b n f u u')
    (hgrows : Grows b n t.trail t'.trail u.trail u'.trail) :
    Paired b n f { u with turns := t.turns } { u' with turns := t'.turns } :=
  ⟨hu.pos, hu.kept, hu.limit, hu.trail, h.turns.imp fun _ _ => Turn.Paired.mono hgrows⟩

theorem grown (h : Paired b n f t t') {s s' : List Event}
    (hgrows : Grows b n t.trail t'.trail s s') :
    Paired b n f { t with trail := s } { t' with trail := s' } :=
  ⟨h.pos, h.kept, h.limit, h.trail.trans hgrows,
    h.turns.imp fun _ _ => Turn.Paired.mono hgrows⟩

theorem began (h : Paired b n f t t') (w : Watch) :
    Paired b n f (w.began t) ((w.shift b f).began t') := by
  obtain ⟨groups, number⟩ := w
  cases number with
  | none => exact h
  | some i =>
    refine ⟨h.pos, h.kept, h.limit, h.trail, .cons ?_ h.turns⟩
    rw [h.pos]
    exact .began i t.pos h.trail .refl

theorem wentOn (h : Paired b n f t t') (w : Watch) :
    Paired b n f (w.wentOn t) ((w.shift b f).wentOn t') := by
  obtain ⟨groups, number⟩ := w
  cases number with
  | none => exact h
  | some i => exact ⟨h.pos, h.kept, h.limit, h.trail, .cons (.wentOn i) h.turns⟩

theorem lastTurn (hf : Function.Injective f) {s s' : List Event} {ts ts' : List Turn}
    (h : List.Forall₂ (Turn.Paired b n f s s') ts ts') (loop : Nat × Nat) (ended : Nat) :
    Option.Rel (BeganPaired b n s s')
      (Thread.lastTurn loop ended ts) (Thread.lastTurn (f loop) ended ts') := by
  induction h generalizing ended with
  | nil => exact .none
  | cons hx _ ih =>
    cases hx with
    | wentOn i =>
      simp only [Thread.lastTurn, hf.eq_iff]
      exact ih _
    | began i pos htrails hgrows =>
      simp only [Thread.lastTurn, ne_eq, hf.eq_iff]
      split
      · exact ih _
      · cases ended with
        | zero => exact .some ⟨rfl, htrails, hgrows⟩
        | succ ended => exact ih _

theorem stalls (hf : Function.Injective f) (h : Paired b n f t t') (hu : Paired b n f u u')
    (hgrows : Grows b n t.trail t'.trail u.trail u'.trail) {w : Watch}
    (hw : ∀ i ∈ w.groups, 1 ≤ i) : (w.shift b f).stalls t' u' = w.stalls t u := by
  have compared : ∀ {x x' : Option (Nat × List Event)},
      Option.Rel (BeganPaired b n u.trail u'.trail) x x' →
      x'.any (fun (pos, trail) => u'.pos = pos && !(w.groups.map (b + ·)).any
        (Thread.changed · (u'.trail.length - trail.length) u'.trail)) =
      x.any fun (pos, trail) => u.pos = pos && !w.groups.any
        (Thread.changed · (u.trail.length - trail.length) u.trail) := by
    intro x x' hx
    cases hx with
    | none => rfl
    | @some x x' hx =>
      obtain ⟨pos, s⟩ := x
      obtain ⟨pos', s'⟩ := x'
      obtain ⟨rfl, hs, hgrows⟩ : pos' = pos ∧ Trails b n s s' ∧
        Grows b n s s' u.trail u'.trail := hx
      have hchanged : (w.groups.map (b + ·)).any
          (Thread.changed · (u'.trail.length - s'.length) u'.trail) =
            w.groups.any (Thread.changed · (u.trail.length - s.length) u.trail) := by
        rw [List.any_map, Bool.eq_iff_iff, List.any_eq_true, List.any_eq_true]
        refine exists_congr fun i => and_congr_right fun hi => ?_
        rw [Function.comp_apply, Grows.changed hs hgrows (hw i hi)]
      simp only [Option.any_some, hu.pos, hchanged]
  obtain ⟨groups, number⟩ := w
  cases number with
  | none =>
    have hstart : BeganPaired b n u.trail u'.trail (t.pos, t.trail) (t'.pos, t'.trail) :=
      ⟨h.pos, h.trail, hgrows⟩
    exact compared (.some hstart)
  | some i => exact compared (lastTurn hf hu.turns i 0)

theorem hasText (h : Paired b n f t t') {groups : List Nat} (hg : ∀ i ∈ groups, 1 ≤ i)
    (level : Option Int) :
    t'.hasText (groups.map (b + ·)) level = t.hasText groups level := by
  cases level with
  | none =>
    have hspan : ∀ i ∈ groups, (t'.span? (b + i)).isSome = (t.span? i).isSome :=
      fun i hi => congrArg Option.isSome (h.trail.spanIn (hg i hi))
    unfold Thread.hasText
    rw [List.any_map, Bool.eq_iff_iff, List.any_eq_true, List.any_eq_true]
    refine exists_congr fun i => and_congr_right fun hi => ?_
    rw [Function.comp_apply, hspan i hi]
  | some level => exact congrArg Option.isSome (h.trail.spanAtLevel hg (-level) none)

/-! ### Taking text again -/

variable {text : Text}

theorem again (h : Paired b n f t t') (foldCase : Bool) (start stop : Nat) :
    t'.again text foldCase start stop = t.again text foldCase start stop := by
  unfold Thread.again
  rw [h.pos, h.limit]

theorem hasRoom (h : Paired b n f t t') (start stop : Nat) :
    t'.hasRoom text start stop = t.hasRoom text start stop := by
  unfold Thread.hasRoom
  rw [h.pos, h.limit]

theorem againAny (h : Paired b n f t t') (foldCase : Bool) {groups : List Nat}
    (hg : ∀ i ∈ groups, 1 ≤ i) :
    t'.againAny text foldCase (groups.map (b + ·)) = t.againAny text foldCase groups := by
  induction groups with
  | nil => rfl
  | cons i groups ih =>
    have hspan : t'.span? (b + i) = t.span? i := h.trail.spanIn (hg i (by simp))
    have ih := ih fun j hj => hg j (List.mem_cons_of_mem i hj)
    rw [List.map_cons, Thread.againAny, Thread.againAny, hspan]
    split
    · exact ih
    · rw [h.hasRoom, h.again, ih]

theorem afterSame (h : Paired b n f t t') (foldCase : Bool) {groups : List Nat}
    (hg : ∀ i ∈ groups, 1 ≤ i) (level : Option Int) :
    t'.afterSame text foldCase (groups.map (b + ·)) level =
      t.afterSame text foldCase groups level := by
  cases level with
  | none =>
    unfold Thread.afterSame
    rw [← List.map_reverse]
    exact h.againAny foldCase fun i hi => hg i (List.mem_reverse.1 hi)
  | some level =>
    unfold Thread.afterSame
    simp only [h.trail.spanAtLevel hg, h.hasRoom, h.again]

end Thread.Paired

end

end ScopeLexer.Regex
