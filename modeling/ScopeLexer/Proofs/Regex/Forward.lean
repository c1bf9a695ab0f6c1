import ScopeLexer.Regex.Search

/-! Matching goes forward. Whatever a program does, a thread that its matcher hands on stands at the
place where it started or behind it, as long as the program does not look behind; and it keeps its
start, as long as the program does not move it. So a search with a program that does neither finds
its match where it tries, which is never before the place where the search begins. -/

namespace ScopeLexer.Regex

variable {text : Text} {origin : Nat} {enter : Nat → Matcher} {R : Thread → Thread → Prop}

namespace Program

/-- Looks at what stands before a place. -/
def looksBehind : Program → Bool
  | behind _ _ _ => true
  | seq p q | alt p q => p.looksBehind || q.looksBehind
  | loop p _ _ _ _ | group _ p | atomic p | ahead _ p => p.looksBehind
  | _ => false

/-- Moves the start of the match. -/
def keeps : Program → Bool
  | keep => true
  | seq p q | alt p q => p.keeps || q.keeps
  | loop p _ _ _ _ | group _ p | atomic p | ahead _ p | behind _ _ p => p.keeps
  | _ => false

end Program

/-! ### Places -/

theorem foldedEnds_ge {limit : Nat} {spelled : Bool} {cs : List Char} {i j : Nat}
    (h : j ∈ foldedEnds text limit spelled cs i) : i ≤ j := by
  induction hn : cs.length using Nat.strongRecOn generalizing cs i with
  | ind n ih =>
    -- each way goes on with fewer characters of the run, behind `i`
    have step : ∀ {c : Prop} [Decidable c] {ds : List Char} {k : Nat}, ds.length < n →
        j ∈ (if c then foldedEnds text limit spelled ds k else []) → k ≤ j := by
      intro c _ ds k hds h
      split at h
      · exact ih _ hds h rfl
      · simp at h
    cases cs with
    | nil =>
      rw [foldedEnds] at h
      have := List.mem_singleton.1 h
      omega
    | cons p ps =>
      rw [foldedEnds] at h
      split at h
      · simp at h
      · rcases List.mem_append.1 h with h | h
        · rcases List.mem_append.1 h with h | h
          · exact Nat.le_of_succ_le (step (by simp at hn; omega) h)
          · exact Nat.le_trans (Nat.le_add_right _ _) (step (by simp at hn; omega) h)
        · split at h
          · rcases List.mem_append.1 h with h | h
            · exact Nat.le_of_succ_le (step (by simp at hn; omega) h)
            · split at h
              · exact Nat.le_of_succ_le (step (by simp at hn; omega) h)
              · simp at h
          · simp at h

theorem Atom.ends_ge {a : Atom} {limit i j : Nat} (h : j ∈ a.ends text limit i) : i ≤ j := by
  cases a with
  | chars cs =>
    simp only [Atom.ends] at h
    split at h
    · have := List.mem_singleton.1 h
      omega
    · simp at h
  | set s =>
    simp only [Atom.ends] at h
    split at h
    · split at h
      · have := List.mem_singleton.1 h
        omega
      · simp at h
    · simp at h
  | folded cs spelled => exact foldedEnds_ge h
  | foldedSet s negated spelled =>
    simp only [Atom.ends] at h
    split at h
    · simp at h
    · rcases List.mem_append.1 h with h | h
      · split at h
        · have := List.mem_singleton.1 h
          omega
        · simp at h
      · split at h
        · obtain ⟨n, _, h⟩ := List.mem_filterMap.1 h
          obtain ⟨cs, _, h⟩ := Option.bind_eq_some_iff.1 h
          split at h
          · have := Option.some.inj h
            omega
          · simp at h
        · simp at h

theorem Thread.foldedAgain_ge {limit : Nat} {old : List Char} {pos room i : Nat}
    (h : Thread.foldedAgain text limit old pos room = some i) : pos ≤ i := by
  induction old generalizing pos room with
  | nil =>
    have := Option.some.inj h
    omega
  | cons c old ih =>
    simp only [Thread.foldedAgain, Option.bind_eq_bind, Option.bind_eq_some_iff] at h
    obtain ⟨d, _, h⟩ := h
    split at h
    · have := ih h
      omega
    · simp at h

theorem Thread.again_ge {foldCase : Bool} {t : Thread} {start stop i : Nat}
    (h : t.again text foldCase start stop = some i) : t.pos ≤ i := by
  simp only [Thread.again] at h
  split at h
  · exact Thread.foldedAgain_ge h
  · split at h
    · have := Option.some.inj h
      omega
    · simp at h

theorem Thread.afterSame_ge {foldCase : Bool} {t : Thread} {groups : List Nat}
    {level : Option Int} {i : Nat} (h : t.afterSame text foldCase groups level = some i) :
    t.pos ≤ i := by
  cases level with
  | none =>
    simp only [Thread.afterSame] at h
    generalize groups.reverse = gs at h
    induction gs with
    | nil => simp [Thread.againAny] at h
    | cons g gs ih =>
      simp only [Thread.againAny] at h
      split at h
      · exact ih h
      · split at h
        · simp at h
        · rcases Option.or_eq_some_iff.1 h with h | ⟨_, h⟩
          · exact Thread.again_ge h
          · exact ih h
  | some level =>
    simp only [Thread.afterSame, Option.bind_eq_bind, Option.bind_eq_some_iff] at h
    obtain ⟨_, _, h⟩ := h
    split at h
    · exact Thread.again_ge h
    · simp at h

/-! ### Matchers -/

/-- A matcher succeeds only with a thread to which the one that it got is related. -/
def Matcher.Follows (R : Thread → Thread → Prop) (m : Matcher) : Prop :=
  ∀ t accept r, m t accept = some r → ∃ u, R t u ∧ accept u = some r

theorem Matcher.Follows.found {m : Matcher} (hm : m.Follows R) {t u : Thread}
    (h : m t some = some u) : R t u := by
  obtain ⟨v, hv, e⟩ := hm _ _ _ h
  obtain rfl := Option.some.inj e
  exact hv

/-- A relation between a thread and later ones. -/
structure Later (R : Thread → Thread → Prop) : Prop where
  refl : ∀ t, R t t
  trans : ∀ {t u v}, R t u → R u v → R t v
  move : ∀ {t i}, t.pos ≤ i → R t (t.moveTo i)
  record : ∀ t e, R t (t.record e)
  turns : ∀ t ts, R t { t with turns := ts }
  back : ∀ {t u}, R t u → R t { u with pos := t.pos }

theorem Later.and {S : Thread → Thread → Prop} (hR : Later R) (hS : Later S) :
    Later fun t u => R t u ∧ S t u where
  refl t := ⟨hR.refl t, hS.refl t⟩
  trans h k := ⟨hR.trans h.1 k.1, hS.trans h.2 k.2⟩
  move h := ⟨hR.move h, hS.move h⟩
  record t e := ⟨hR.record t e, hS.record t e⟩
  turns t ts := ⟨hR.turns t ts, hS.turns t ts⟩
  back h := ⟨hR.back h.1, hS.back h.2⟩

namespace Thread

theorem pos_later : Later fun t u : Thread => t.pos ≤ u.pos where
  refl _ := Nat.le_refl _
  trans h k := Nat.le_trans h k
  move h := h
  record _ _ := Nat.le_refl _
  turns _ _ := Nat.le_refl _
  back _ := Nat.le_refl _

theorem kept_later : Later fun t u : Thread => u.kept = t.kept where
  refl _ := rfl
  trans h k := k.trans h
  move _ := rfl
  record _ _ := rfl
  turns _ _ := rfl
  back h := h

end Thread

namespace Matcher

theorem captured_follows (hR : Later R) {m : Matcher} (hm : m.Follows R) (i : Nat) :
    (captured i m).Follows R := by
  intro t accept r h
  obtain ⟨u, hu, h⟩ := hm _ _ _ h
  exact ⟨_, hR.trans (hR.trans (hR.record _ _) hu) (hR.record _ _), h⟩

theorem entered_follows (hR : Later R) {m : Matcher} (hm : m.Follows R) :
    (entered m).Follows R := by
  intro t accept r h
  obtain ⟨u, hu, h⟩ := hm _ _ _ h
  exact ⟨_, hR.trans (hR.trans (hR.record _ _) hu) (hR.record _ _), h⟩

theorem noted_follows (hR : Later R) (number : Option (Nat × Nat)) (turn : Nat × Nat → Turn)
    (t : Thread) : R t (number.elim t fun n => t.note (turn n)) := by
  cases number with
  | none => exact hR.refl t
  | some n => exact hR.turns t _

theorem began_follows (hR : Later R) (watch : Option Watch) (t : Thread) :
    R t (watch.elim t (·.began t)) := by
  cases watch with
  | none => exact hR.refl t
  | some w => exact noted_follows hR w.number _ t

theorem wentOn_follows (hR : Later R) (watch : Option Watch) (t : Thread) :
    R t (watch.elim t (·.wentOn t)) := by
  cases watch with
  | none => exact hR.refl t
  | some w => exact noted_follows hR w.number _ t

theorem turns_follows (hR : Later R) {m : Matcher} (hm : m.Follows R) (greedy : Bool)
    (watch : Option Watch) (fuel least : Nat) (most : Option Nat) :
    (turns m greedy watch fuel least most).Follows R := by
  induction fuel generalizing least most with
  | zero => exact fun t accept r h => ⟨t, hR.refl t, h⟩
  | succ fuel ih =>
    intro t accept r h
    -- one more turn, and what follows it
    have again : ∀ {r}, (m (watch.elim t (·.began t)) fun u =>
        if watch.any (·.stalls t u) then accept u
        else turns m greedy watch fuel (least - 1) (most.map (· - 1))
          (watch.elim u (·.wentOn u)) accept) = some r → ∃ u, R t u ∧ accept u = some r := by
      intro r h
      obtain ⟨u, hu, h⟩ := hm _ _ _ h
      have hu := hR.trans (began_follows hR watch t) hu
      split at h
      · exact ⟨u, hu, h⟩
      · obtain ⟨v, hv, h⟩ := ih _ _ _ _ _ h
        exact ⟨v, hR.trans (hR.trans hu (wentOn_follows hR watch u)) hv, h⟩
    simp only [turns] at h
    split at h
    · exact ⟨t, hR.refl t, h⟩
    · split at h
      · exact again h
      · split at h
        · rcases Option.or_eq_some_iff.1 h with h | ⟨_, h⟩
          · exact again h
          · exact ⟨t, hR.refl t, h⟩
        · rcases Option.or_eq_some_iff.1 h with h | ⟨_, h⟩
          · exact ⟨t, hR.refl t, h⟩
          · exact again h

/-- A look-around that found `found`. -/
def around (negated : Bool) (found : Option Thread) : Matcher := fun t accept =>
  found.elim (if negated then accept t else none) fun u =>
    if negated then none else accept { u with turns := t.turns }

theorem around_follows (hR : Later R) {negated : Bool} {found : Option Thread} {t r : Thread}
    {accept : Accept} (hfound : ∀ u, found = some u → R t u)
    (h : around negated found t accept = some r) : ∃ u, R t u ∧ accept u = some r := by
  cases negated with
  | true =>
    cases found with
    | none => exact ⟨t, hR.refl t, h⟩
    | some u => exact nomatch h
  | false =>
    cases found with
    | none => exact nomatch h
    | some u => exact ⟨_, hR.trans (hfound u rfl) (hR.turns _ _), h⟩

end Matcher

/-! ### Programs -/

namespace Program

theorem matcher_ahead_eq (negated : Bool) (p : Program) (t : Thread) (accept : Accept) :
    (ahead negated p).matcher text origin enter t accept =
      Matcher.around negated ((p.matcher text origin enter t some).map (·.moveTo t.pos)) t
        accept := by
  simp only [matcher, Matcher.around]
  split <;> simp only [*, Option.map, Option.elim, Thread.moveTo]

/-- What a look-behind finds. -/
def foundBehind (text : Text) (origin : Nat) (enter : Nat → Matcher) (back : Back)
    (p : Program) (t : Thread) : Option Thread :=
  match back with
  | .exact _ =>
    (back.starts t.pos).findSome? fun i => p.matcher text origin enter (t.moveTo i) some
  | .between _ _ =>
    (back.starts t.pos).findSome? fun i =>
      p.matcher text origin enter { t with pos := i, limit := t.pos } fun u =>
        if u.pos = t.pos then some { u with limit := t.limit } else none

theorem matcher_behind_eq (negated : Bool) (back : Back) (p : Program) (t : Thread)
    (accept : Accept) :
    (behind negated back p).matcher text origin enter t accept =
      Matcher.around negated (p.foundBehind text origin enter back t) t accept := by
  cases back with
  | exact k =>
    simp only [matcher, foundBehind, Matcher.around]
    split <;> simp only [*, Option.elim]
  | between least most =>
    simp only [matcher, foundBehind, Matcher.around]
    split <;> simp only [*, Option.elim]

/-- A look-behind starts anywhere, and gives back the limit that it got. -/
theorem foundBehind_follows (hR : Later R) {p : Program}
    (hp : (p.matcher text origin enter).Follows R)
    (hmove : ∀ (t : Thread) i limit, R t { t with pos := i, limit }) {back : Back} {t u : Thread}
    (h : p.foundBehind text origin enter back t = some u) : R t u := by
  cases back with
  | exact n =>
    obtain ⟨i, -, h⟩ := List.exists_of_findSome?_eq_some h
    exact hR.trans (hmove t i t.limit) (hp.found h)
  | between least most =>
    obtain ⟨i, -, h⟩ := List.exists_of_findSome?_eq_some h
    obtain ⟨v, hv, e⟩ := hp _ _ _ h
    split at e
    · obtain rfl := Option.some.inj e
      exact hR.trans (hR.trans (hmove t i t.pos) hv) (hmove v v.pos t.limit)
    · simp at e

theorem matcher_follows (hR : Later R) {p : Program}
    (hb : p.looksBehind = true → ∀ (t : Thread) i limit, R t { t with pos := i, limit })
    (henter : p.turnsBack = true → ∀ i, (enter i).Follows R)
    (hk : p.keeps = true → ∀ t : Thread, R t { t with kept := t.pos }) :
    (p.matcher text origin enter).Follows R := by
  induction p with
  | empty => exact fun t accept r h => ⟨t, hR.refl t, h⟩
  | atom a =>
    intro t accept r h
    obtain ⟨i, hi, h⟩ := List.exists_of_findSome?_eq_some h
    exact ⟨_, hR.move (Atom.ends_ge hi), h⟩
  | assertion a =>
    intro t accept r h
    simp only [matcher] at h
    split at h
    · exact ⟨t, hR.refl t, h⟩
    · simp at h
  | seq p q ihp ihq =>
    intro t accept r h
    simp only [looksBehind, turnsBack, keeps, Bool.or_eq_true] at hb henter hk
    obtain ⟨u, hu, h⟩ := ihp (fun hp => hb (.inl hp)) (fun hp => henter (.inl hp))
      (fun hp => hk (.inl hp)) _ _ _ h
    obtain ⟨v, hv, h⟩ := ihq (fun hq => hb (.inr hq)) (fun hq => henter (.inr hq))
      (fun hq => hk (.inr hq)) _ _ _ h
    exact ⟨v, hR.trans hu hv, h⟩
  | alt p q ihp ihq =>
    intro t accept r h
    simp only [looksBehind, turnsBack, keeps, Bool.or_eq_true] at hb henter hk
    rcases Option.or_eq_some_iff.1 h with h | ⟨_, h⟩
    · exact ihp (fun hp => hb (.inl hp)) (fun hp => henter (.inl hp)) (fun hp => hk (.inl hp))
        _ _ _ h
    · exact ihq (fun hq => hb (.inr hq)) (fun hq => henter (.inr hq)) (fun hq => hk (.inr hq))
        _ _ _ h
  | loop p least most greedy watch ih =>
    exact fun t accept r h => Matcher.turns_follows hR (ih hb henter hk) _ _ _ _ _ _ _ _ h
  | group i p ih => exact Matcher.captured_follows hR (ih hb henter hk) i
  | atomic p ih =>
    intro t accept r h
    obtain ⟨u, hu, h⟩ := Option.bind_eq_some_iff.1 h
    exact ⟨_, hR.trans ((ih hb henter hk).found hu) (hR.turns _ _), h⟩
  | ahead negated p ih =>
    intro t accept r h
    rw [matcher_ahead_eq] at h
    refine Matcher.around_follows hR (fun u hu => ?_) h
    obtain ⟨v, hv, rfl⟩ := Option.map_eq_some_iff.1 hu
    exact hR.back ((ih hb henter hk).found hv)
  | behind negated back p ih =>
    intro t accept r h
    rw [matcher_behind_eq] at h
    have hmove := hb rfl
    have hp := ih (fun _ => hmove) (fun _ => henter rfl) hk
    exact Matcher.around_follows hR (fun u hu => foundBehind_follows hR hp hmove hu) h
  | same groups foldCase level =>
    intro t accept r h
    obtain ⟨i, hi, h⟩ := Option.bind_eq_some_iff.1 h
    exact ⟨_, hR.move (Thread.afterSame_ge hi), h⟩
  | given negated groups level =>
    intro t accept r h
    simp only [matcher] at h
    split at h
    · simp at h
    · exact ⟨t, hR.refl t, h⟩
  | call i => exact henter rfl i
  | keep => exact fun t accept r h => ⟨_, hk rfl t, h⟩

end Program

theorem callMatcher_follows (hR : Later R) {bodies : Nat → Option Program}
    (hb : ∀ i p, bodies i = some p → p.looksBehind = true →
      ∀ (t : Thread) i limit, R t { t with pos := i, limit })
    (hk : ∀ i p, bodies i = some p → p.keeps = true → ∀ t : Thread, R t { t with kept := t.pos })
    (depth i : Nat) : (callMatcher bodies text origin depth i).Follows R := by
  induction depth generalizing i with
  | zero => exact fun t accept r h => nomatch h
  | succ depth ih =>
    intro t accept r h
    simp only [callMatcher] at h
    split at h
    · next p hp =>
      exact Matcher.entered_follows hR
        (Program.matcher_follows hR (hb i p hp) (fun _ => ih) (hk i p hp)) _ _ _ h
    · simp at h

/-! ### Searches -/

/-- Neither looks behind nor moves the start of the match. -/
def Program.isPlain (p : Program) : Bool := !p.looksBehind && !p.keeps

/-- The program and all called groups are plain. -/
structure Plain (r : Regex) : Prop where
  program : r.program.isPlain
  bodies : ∀ i p, r.body? i = some p → p.isPlain

/-- Checks the program and the called groups. -/
def isPlain (r : Regex) : Bool :=
  r.program.isPlain && (List.range (r.groups + 1)).all fun i => (r.body? i).all (·.isPlain)

/-- What building a regular expression comes through: the pattern is read, no back-reference goes
too far, calls are resolved and come to an end, and look-behinds are settled. -/
theorem compile_cases {extended : Bool} {s : String} {r : Regex}
    (h : Regex.compile extended s = .ok r) : ∃ p g q q' settled,
      parse ⟨false, false, extended, false⟩ s = .ok (p, g) ∧
      p.referred.any (g.count < ·) = false ∧ p.resolve g.resolve = .ok q ∧
      q.hasEndlessCall g.count = false ∧ (q.settle g.count [0] q).run [] = .ok (q', settled) ∧
      r = .ofPattern q' g.count := by
  have unrefused : ∀ {b : Bool} {e : Fault} {k : Unit → Except Fault Regex},
      (if b = true then throw e >>= k else k ()) = .ok r ↔ b = false ∧ k () = .ok r := by
    intro b e k
    cases b <;> simp [throw, throwThe, MonadExceptOf.throw, bind, Except.bind]
  rw [Regex.compile, bind_eq_ok] at h
  obtain ⟨⟨p, g⟩, hp, h⟩ := h
  simp only [unrefused] at h
  obtain ⟨hr, h⟩ := h
  obtain ⟨q, hq, h⟩ := bind_eq_ok.1 h
  simp only [unrefused] at h
  obtain ⟨he, h⟩ := h
  obtain ⟨⟨q', settled⟩, hs, h⟩ := bind_eq_ok.1 h
  exact ⟨p, g, q, q', settled, hp, hr, hq, he, hs, (pure_eq_ok.1 h).symm⟩

/-- What the engine builds are these regular expressions. -/
theorem engine_compile_eq_ok {extended : Bool} {s : String} {x : Expression} :
    Engine.compile extended s = .ok x ↔ ∃ r, Regex.compile extended s = .ok r ∧ r.expression = x :=
  map_eq_ok

theorem body?_eq_none {extended : Bool} {s : String} {r : Regex}
    (h : Regex.compile extended s = .ok r) {i : Nat} (hi : r.groups < i) : r.body? i = none := by
  obtain ⟨_, g, _, q, _, _, _, _, _, _, rfl⟩ := compile_cases h
  have hnone : (Array.range (g.count + 1))[i]? = none := by
    rw [Array.getElem?_eq_none]
    rw [Array.size_range]
    exact hi
  simp only [ofPattern, Array.getElem?_map, hnone, Option.map_none, Option.join_none]

theorem plain_of_compile {extended : Bool} {s : String} {r : Regex}
    (h : Regex.compile extended s = .ok r) (hp : r.isPlain) : r.Plain := by
  simp only [isPlain, Bool.and_eq_true, List.all_eq_true, List.mem_range] at hp
  refine ⟨hp.1, fun i p hi => ?_⟩
  by_cases hle : i < r.groups + 1
  · have := hp.2 i hle
    rwa [hi] at this
  · rw [body?_eq_none h (by omega)] at hi
    simp at hi

/-- A thread that went on from another one and kept its start. -/
def Thread.Onward (t u : Thread) : Prop := t.pos ≤ u.pos ∧ u.kept = t.kept

theorem Thread.onward_later : Later Thread.Onward := Thread.pos_later.and Thread.kept_later

theorem Plain.matchAt_onward {r : Regex} (h : r.Plain) {text : Text} {origin i : Nat}
    {t : Thread} (ht : r.matchAt text origin i = some t) : i ≤ t.pos ∧ t.kept = i := by
  have plain : ∀ {p : Program}, p.isPlain → p.looksBehind = false ∧ p.keeps = false := by
    intro p hp
    simpa [Program.isPlain] using hp
  have henter : ∀ j, (callMatcher r.body? text origin callDepth j).Follows Thread.Onward := by
    intro j
    refine callMatcher_follows Thread.onward_later (fun i p hp hb => ?_) (fun i p hp hk => ?_)
      callDepth j
    · simp [(plain (h.bodies i p hp)).1] at hb
    · simp [(plain (h.bodies i p hp)).2] at hk
  have hfollows : (r.program.matcher text origin
      (callMatcher r.body? text origin callDepth)).Follows Thread.Onward :=
    Program.matcher_follows Thread.onward_later
      (fun hb => by simp [(plain h.program).1] at hb) (fun _ => henter)
      (fun hk => by simp [(plain h.program).2] at hk)
  exact hfollows.found ht

theorem search_eq_some {r : Regex} {text : Text} {origin : Nat} {m : Match text.size origin}
    (h : r.search text origin = some m) : ∃ i t, origin ≤ i ∧ r.matchAt text origin i = some t ∧
      t.toMatch? r.groups text.size origin i = some m := by
  obtain ⟨i, hi, h⟩ := List.exists_of_findSome?_eq_some h
  obtain ⟨t, ht, hm⟩ := Option.bind_eq_some_iff.1 h
  exact ⟨i, t, (List.mem_range'_1.1 hi).1, ht, hm⟩

theorem Thread.toMatch?_span {t : Thread} {groups n origin i : Nat} {m : Match n origin}
    (h : t.toMatch? groups n origin i = some m) :
    m.span.start = min t.kept t.pos ∧ m.span.stop = t.pos := by
  simp only [Thread.toMatch?, Option.bind_eq_bind, Option.bind_eq_some_iff] at h
  obtain ⟨s, hs, h⟩ := h
  split at h
  · obtain rfl := Option.some.inj h
    unfold Span.of? at hs
    split at hs
    · obtain rfl := Option.some.inj hs
      exact ⟨rfl, rfl⟩
    · simp at hs
  · simp at h

/-- A search with a plain pattern finds its match where it begins or behind that. -/
theorem Plain.origin_le_start {r : Regex} (h : r.Plain) {text : Text} {origin : Nat}
    {m : Match text.size origin} (hm : r.search text origin = some m) :
    origin ≤ m.span.start := by
  obtain ⟨i, t, hi, ht, htm⟩ := search_eq_some hm
  obtain ⟨hpos, hkept⟩ := h.matchAt_onward ht
  have hs := (Thread.toMatch?_span htm).1
  omega

/-- Neither the program nor a called group moves the start of the match. -/
structure FixesStart (r : Regex) : Prop where
  program : r.program.keeps = false
  bodies : ∀ i p, r.body? i = some p → p.keeps = false

theorem FixesStart.matchAt_kept {r : Regex} (h : r.FixesStart) {text : Text} {origin i : Nat}
    {t : Thread} (ht : r.matchAt text origin i = some t) : t.kept = i := by
  have hfollows : (r.program.matcher text origin
      (callMatcher r.body? text origin callDepth)).Follows fun t u => u.kept = t.kept :=
    Program.matcher_follows Thread.kept_later (fun _ _ _ _ => rfl)
      (fun _ => callMatcher_follows Thread.kept_later (fun _ _ _ _ _ _ _ => rfl)
        (fun i p hp hk => by simp [h.bodies i p hp] at hk) callDepth)
      (fun hk => by simp [h.program] at hk)
  exact hfollows.found ht

/-- A match that takes some text, and whose start does not move, ends behind the place where its
search begins, even if the pattern looks behind. -/
theorem FixesStart.origin_lt_stop {r : Regex} (h : r.FixesStart) {text : Text} {origin : Nat}
    {m : Match text.size origin} (hm : r.search text origin = some m)
    (hne : m.span.start ≠ m.span.stop) : origin < m.span.stop := by
  obtain ⟨i, t, hi, ht, htm⟩ := search_eq_some hm
  obtain ⟨hstart, hstop⟩ := Thread.toMatch?_span htm
  have hkept := h.matchAt_kept ht
  omega

end ScopeLexer.Regex
