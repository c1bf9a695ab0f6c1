import ScopeLexer.Proofs.Regex.Forward
import ScopeLexer.Proofs.Regex.Paired

/-! Matching side by side. A program and the shifted one take two paired threads through the same
ways in the same order, so that either both find a way that is accepted or none does, and the threads
that they hand on are paired again. -/

namespace ScopeLexer.Regex

variable {text : Text} {origin b n : Nat} {f : Nat × Nat → Nat × Nat}

theorem Watch.began_trail (w : Watch) (t : Thread) : (w.began t).trail = t.trail := by
  obtain ⟨groups, number⟩ := w
  cases number <;> rfl

theorem Watch.wentOn_trail (w : Watch) (t : Thread) : (w.wentOn t).trail = t.trail := by
  obtain ⟨groups, number⟩ := w
  cases number <;> rfl

/-- Threads that come after `t` and `t'`, paired as those are. -/
structure Thread.Onwards (b n : Nat) (f : Nat × Nat → Nat × Nat) (t t' u u' : Thread) : Prop where
  paired : Thread.Paired b n f u u'
  grows : Grows b n t.trail t'.trail u.trail u'.trail

/-- From paired threads on, two matchers find corresponding results if what they hand on does. -/
def Simulates (b n : Nat) (f : Nat × Nat → Nat × Nat) (m m' : Matcher) : Prop :=
  ∀ (R : Thread → Thread → Prop) {t t' : Thread} {accept accept' : Accept},
    Thread.Paired b n f t t' →
    (∀ u u', Thread.Onwards b n f t t' u u' → Option.Rel R (accept u) (accept' u')) →
    Option.Rel R (m t accept) (m' t' accept')

namespace Simulates

variable {m m' : Matcher}

/-- The first ways that two matchers find. -/
theorem found (h : Simulates b n f m m') {t t' : Thread} (ht : Thread.Paired b n f t t') :
    Option.Rel (Thread.Onwards b n f t t') (m t some) (m' t' some) :=
  h _ ht fun _ _ hu => .some hu

theorem captured (h : Simulates b n f m m') {i : Nat} (hi : 1 ≤ i ∧ i ≤ n) :
    Simulates b n f (Matcher.captured i m) (Matcher.captured (b + i) m') := by
  intro R t t' accept accept' ht hu
  have hopened : Grows b n t.trail t'.trail (.opened i t.pos :: t.trail)
      (.opened (b + i) t'.pos :: t'.trail) := by
    rw [ht.pos]
    exact .both (.opened i t.pos) hi .refl
  refine h R (ht.grown hopened) fun u u' hon => hu _ _ ?_
  have hclosed : Grows b n u.trail u'.trail (.closed i t.pos u.pos :: u.trail)
      (.closed (b + i) t'.pos u'.pos :: u'.trail) := by
    rw [ht.pos, hon.paired.pos]
    exact .both (.closed i t.pos u.pos) hi .refl
  exact ⟨hon.paired.grown hclosed, (hopened.trans hon.grows).trans hclosed⟩

theorem entered (h : Simulates b n f m m') :
    Simulates b n f (Matcher.entered m) (Matcher.entered m') := by
  intro R t t' accept accept' ht hu
  have hcalled : Grows b n t.trail t'.trail (.called :: t.trail) (.called :: t'.trail) :=
    .both .called trivial .refl
  refine h R (ht.grown hcalled) fun u u' hon => hu _ _ ?_
  have hreturned : Grows b n u.trail u'.trail (.returned :: u.trail) (.returned :: u'.trail) :=
    .both .returned trivial .refl
  exact ⟨hon.paired.grown hreturned, (hcalled.trans hon.grows).trans hreturned⟩

theorem turns (h : Simulates b n f m m') (hf : Function.Injective f) (greedy : Bool)
    {watch : Option Watch} (hw : ∀ w ∈ watch, ∀ i ∈ w.groups, 1 ≤ i) (fuel least : Nat)
    (most : Option Nat) :
    Simulates b n f (m.turns greedy watch fuel least most)
      (m'.turns greedy (watch.map (Watch.shift b f)) fuel least most) := by
  induction fuel generalizing least most with
  | zero => exact fun R t t' accept accept' ht hu => hu t t' ⟨ht, .refl⟩
  | succ fuel ih =>
    intro R t t' accept accept' ht hu
    have hstop : Option.Rel R (accept t) (accept' t') := hu t t' ⟨ht, .refl⟩
    -- one more turn, and what follows it
    have again : Option.Rel R
        (m (watch.elim t (·.began t)) fun u =>
          if watch.any (·.stalls t u) then accept u
          else m.turns greedy watch fuel (least - 1) (most.map (· - 1))
            (watch.elim u (·.wentOn u)) accept)
        (m' ((watch.map (Watch.shift b f)).elim t' (·.began t')) fun u =>
          if (watch.map (Watch.shift b f)).any (·.stalls t' u) then accept' u
          else m'.turns greedy (watch.map (Watch.shift b f)) fuel (least - 1) (most.map (· - 1))
            ((watch.map (Watch.shift b f)).elim u (·.wentOn u)) accept') := by
      cases watch with
      | none =>
        refine h R ht fun u u' hon => ?_
        exact ih _ _ R hon.paired fun v v' hv => hu v v' ⟨hv.paired, hon.grows.trans hv.grows⟩
      | some w =>
        have hw : ∀ i ∈ w.groups, 1 ≤ i := hw w rfl
        refine h R (ht.began w) fun u u' hon => ?_
        have hgrows : Grows b n (w.began t).trail ((w.shift b f).began t').trail u.trail u'.trail :=
          hon.grows
        rw [Watch.began_trail, Watch.began_trail] at hgrows
        have hstalls := Thread.Paired.stalls hf ht hon.paired hgrows hw
        simp only [Option.map_some, Option.any_some, Option.elim_some, hstalls]
        split
        · exact hu u u' ⟨hon.paired, hgrows⟩
        · refine ih _ _ R (hon.paired.wentOn w) fun v v' hv => hu v v' ⟨hv.paired, ?_⟩
          have hlater : Grows b n (w.wentOn u).trail ((w.shift b f).wentOn u').trail
              v.trail v'.trail := hv.grows
          rw [Watch.wentOn_trail, Watch.wentOn_trail] at hlater
          exact hgrows.trans hlater
    simp only [Matcher.turns]
    split
    · exact hstop
    · split
      · exact again
      · split
        · exact rel_or again hstop
        · exact rel_or hstop again

theorem loop (h : Simulates b n f m m') (hf : Function.Injective f) (least : Nat)
    (most : Option Nat) (greedy : Bool) {watch : Option Watch}
    (hw : ∀ w ∈ watch, ∀ i ∈ w.groups, 1 ≤ i) :
    Simulates b n f (m.loop text least most greedy watch)
      (m'.loop text least most greedy (watch.map (Watch.shift b f))) := by
  intro R t t' accept accept' ht hu
  have hwatched : ((watch.map (Watch.shift b f)).elim 0 fun w => w.groups.length) =
      watch.elim 0 fun w => w.groups.length := by
    cases watch with
    | none => rfl
    | some w => exact List.length_map _
  simp only [Matcher.loop, hwatched, ht.pos]
  exact h.turns hf greedy hw _ _ _ R ht hu

/-- Look-arounds that find corresponding threads. -/
theorem around {R : Thread → Thread → Prop} {t t' : Thread} {accept accept' : Accept}
    {x x' : Option Thread} (hx : Option.Rel (Thread.Onwards b n f t t') x x')
    (ht : Thread.Paired b n f t t')
    (hu : ∀ u u', Thread.Onwards b n f t t' u u' → Option.Rel R (accept u) (accept' u'))
    (negated : Bool) :
    Option.Rel R (Matcher.around negated x t accept) (Matcher.around negated x' t' accept') := by
  cases negated with
  | true =>
    cases hx with
    | none => exact hu t t' ⟨ht, .refl⟩
    | some hon => exact .none
  | false =>
    cases hx with
    | none => exact .none
    | some hon => exact hu _ _ ⟨ht.withTurns hon.paired hon.grows, hon.grows⟩

end Simulates

/-! ### Programs -/

end ScopeLexer.Regex
