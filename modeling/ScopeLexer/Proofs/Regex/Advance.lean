import ScopeLexer.Proofs.Regex.Forward

/-! How far a match gets. A thread that a matcher hands on stays inside the text, and it stands at
least as many characters behind the place where it started as the program is sure to take. Only a
look-behind that starts a fixed number of characters before its place can go back, if what it looks
for takes fewer. So where every look-behind is sure to come back to its place, no match ends before
the place where it is tried. -/

namespace ScopeLexer.Regex

variable {text : Text} {origin : Nat} {enter : Nat → Matcher}

/-! ### Sure lengths -/

/-- The number of characters that an atom takes at least. -/
def Atom.sure : Atom → Nat
  | chars cs => cs.length
  | folded cs spelled => if spelled then 0 else cs.length
  | set _ | foldedSet _ _ _ => 1

namespace Thread

/-- A thread at a place from which text can be taken, whose groups end in the text. -/
structure Inside (text : Text) (t : Thread) : Prop where
  pos_le : t.pos ≤ t.limit
  limit_le : t.limit ≤ text.size
  stops : ∀ g start stop, Event.closed g start stop ∈ t.trail → stop ≤ text.size

theorem Inside.start {i : Nat} (hi : i ≤ text.size) : (start i text.size).Inside text where
  pos_le := hi
  limit_le := Nat.le_refl _
  stops _ _ _ h := nomatch h

theorem Inside.moveTo {t : Thread} (h : t.Inside text) {i : Nat} (hi : i ≤ t.limit) :
    (t.moveTo i).Inside text := ⟨hi, h.limit_le, h.stops⟩

theorem Inside.record {t : Thread} (h : t.Inside text) {e : Event}
    (he : ∀ g start stop, e = .closed g start stop → stop ≤ text.size) :
    (t.record e).Inside text where
  pos_le := h.pos_le
  limit_le := h.limit_le
  stops g start stop hmem := by
    rcases List.mem_cons.1 hmem with heq | hmem
    · exact he g start stop heq.symm
    · exact h.stops g start stop hmem

end Thread

/-! ### Where atoms and back-references end -/

/-- `u` went on from `t` inside the text, by at least so many characters if a number is given. -/
def Thread.Gains (text : Text) (sure : Option Nat) (t u : Thread) : Prop :=
  t.Inside text → u.Inside text ∧ u.limit = t.limit ∧ ∀ k ∈ sure, t.pos + k ≤ u.pos

namespace Thread.Gains

variable {a b c : Option Nat} {t u v : Thread}

theorem refl (text : Text) (t : Thread) : Gains text (some 0) t t := fun ht =>
  ⟨ht, rfl, fun k hk => by
    obtain rfl := Option.some.inj hk
    exact Nat.le_refl _⟩

theorem trans (h : Gains text a t u) (k : Gains text b u v)
    (hc : ∀ n ∈ c, ∃ i ∈ a, ∃ j ∈ b, n ≤ i + j) : Gains text c t v := by
  intro ht
  obtain ⟨hu, hlimit, hpos⟩ := h ht
  obtain ⟨hv, hlimit', hpos'⟩ := k hu
  refine ⟨hv, hlimit'.trans hlimit, fun n hn => ?_⟩
  obtain ⟨i, hi, j, hj, hle⟩ := hc n hn
  have h1 := hpos i hi
  have h2 := hpos' j hj
  omega

theorem turns {ts : List Turn} (h : Gains text a t u) :
    Gains text a t { u with turns := ts } := by
  intro ht
  obtain ⟨hu, hrest⟩ := h ht
  exact ⟨⟨hu.pos_le, hu.limit_le, hu.stops⟩, hrest⟩

end Thread.Gains

/-! ### Matchers -/

namespace Matcher

open Thread (Gains)

variable {m : Matcher} {n : Option Nat}

end Matcher

/-! ### Programs -/

namespace Program

open Thread (Gains)

variable {known : Nat → Option Nat}

end Program

/-- No match ends before the place where it is tried. -/
def GoesOn (r : Regex) : Prop :=
  ∀ (text : Text) (origin i : Nat) (t : Thread), i ≤ text.size →
    r.matchAt text origin i = some t → i ≤ t.pos

/-- What does not look behind goes on. -/
theorem goesOn_of_looksBehind {r : Regex} (hprogram : r.program.looksBehind = false)
    (hbodies : ∀ i p, r.body? i = some p → p.looksBehind = false) : r.GoesOn := by
  intro text origin i t _ ht
  have henter : ∀ j, (callMatcher r.body? text origin callDepth j).Follows
      fun t u => t.pos ≤ u.pos :=
    callMatcher_follows Thread.pos_later (fun i p hp hb => by simp [hbodies i p hp] at hb)
      (fun _ _ _ _ _ => Nat.le_refl _) callDepth
  have hfollows : (r.program.matcher text origin
      (callMatcher r.body? text origin callDepth)).Follows fun t u => t.pos ≤ u.pos :=
    Program.matcher_follows Thread.pos_later (fun hb => by simp [hprogram] at hb)
      (fun _ => henter) (fun _ _ => Nat.le_refl _)
  exact hfollows.found ht

end ScopeLexer.Regex
