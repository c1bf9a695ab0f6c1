import Mathlib.Algebra.GroupWithZero.Nat
import ScopeLexer.Proofs.Regex.Forward
import ScopeLexer.Proofs.Scan.Call

/-! Progress. A search finds a match that ends where it began or behind that. If the match is empty,
the next search begins one character later; otherwise it begins where the match ends. That is no
progress if a match with a moved start ends where its search began. A lexer that finds no such match
counts at most one match more than the text has characters; any other one comes to the same match
again and again, and only a limit stops it. -/

namespace ScopeLexer

open ScopeLexer.Language Regex

/-- How many matches a course has, if it has an end. -/
def Course.matches? {n : Nat} : Course n → Option Nat
  | .finish _ => some 0
  | .pass _ rest => rest.matches?.map (· + 1)
  | .take _ _ rest => rest.matches?.map (· + 1)
  | .again _ _ => none

namespace Language.Lexer

variable {l : Lexer} {text : Text} {i : Nat}

/-- The positions from which a scan searches. -/
inductive Searches (l : Lexer) (text : Text) : Nat → Prop
  | start : Searches l text 0
  | pass {i m} (hi : Searches l text i) (hm : l.regex.search text i = some m)
      (he : m.span.start = m.span.stop) (hlt : m.span.stop < text.size) :
      Searches l text (m.span.stop + 1)
  | take {i m} (hi : Searches l text i) (hm : l.regex.search text i = some m)
      (hne : m.span.start ≠ m.span.stop) : Searches l text m.span.stop

/-- What a scan takes from the text ends behind the position from which it was searched. -/
def Advances (l : Lexer) (text : Text) : Prop :=
  ∀ i m, l.Searches text i → l.regex.search text i = some m → m.span.start ≠ m.span.stop →
    i < m.span.stop

/-! ### Courses with an end -/

/-- There is one match for each position from `i` on at most, the end of the text included. -/
theorem Advances.matches?_courseFrom (h : l.Advances text) (hi : l.Searches text i) (cursor : Nat) :
    ∃ b ≤ text.size + 1 - i, (l.courseFrom text cursor i).matches? = some b := by
  fun_induction Lexer.courseFrom l text cursor i with
  | case1 cursor i hm => exact ⟨0, Nat.zero_le _, rfl⟩
  | case2 cursor i m hm he hlt ih =>
    obtain ⟨b, hb, hrest⟩ := ih (.pass hi hm he hlt)
    have := m.origin_le_stop
    exact ⟨b + 1, by omega, by rw [Course.matches?, hrest]; rfl⟩
  | case3 cursor i m hm he hlt =>
    have := m.origin_le_stop
    have := m.span.stop_le
    exact ⟨1, by omega, rfl⟩
  | case4 cursor i m hm hne hlt ih =>
    obtain ⟨b, hb, hrest⟩ := ih (.take hi hm hne)
    have := m.span.stop_le
    exact ⟨b + 1, by omega, by rw [Course.matches?, hrest]; rfl⟩
  | case5 cursor i m hm hne hlt => exact absurd (h i m hi hm hne) hlt

/-- If the course has an end, it has one from every search on that it comes to. -/
theorem Searches.matches?_isSome (hi : l.Searches text i) (h : (l.course text).matches?.isSome) :
    ∃ cursor, (l.courseFrom text cursor i).matches?.isSome := by
  induction hi with
  | start => exact ⟨0, h⟩
  | pass hi hm he hlt ih =>
    obtain ⟨cursor, ih⟩ := ih
    rw [courseFrom, hm] at ih
    simp only [he, if_true, hlt, Course.matches?, Option.isSome_map] at ih
    exact ⟨cursor, ih⟩
  | @take i m hi hm hne ih =>
    obtain ⟨cursor, ih⟩ := ih
    rw [courseFrom, hm] at ih
    simp only [hne, if_false] at ih
    split at ih
    · exact ⟨_, by simpa only [Course.matches?, Option.isSome_map] using ih⟩
    · cases ih

/-- A search whose match ends where it began would have come again, and the course had no end. -/
theorem advances_of_matches? (h : (l.course text).matches?.isSome) : l.Advances text := by
  intro i m hi hm hne
  obtain ⟨cursor, h⟩ := hi.matches?_isSome h
  rw [courseFrom, hm] at h
  simp only [hne, if_false] at h
  split at h
  · assumption
  · cases h

theorem advances_iff : l.Advances text ↔
    ∃ b ≤ text.size + 1, (l.course text).matches? = some b := by
  constructor
  · intro h
    exact h.matches?_courseFrom .start 0
  · rintro ⟨b, -, hb⟩
    exact advances_of_matches? (Option.isSome_of_eq_some hb)

theorem matches?_of_not_advances (h : ¬l.Advances text) : (l.course text).matches? = none :=
  Option.not_isSome_iff_eq_none.1 (mt advances_of_matches? h)

/-- Patterns that do not move the start of a match advance on every text. -/
theorem advances_of_fixesStart {r : Regex} (hr : r.expression = l.regex) (h : r.FixesStart)
    (text : Text) : l.Advances text := by
  intro origin m _ hm hne
  rw [← hr] at hm
  exact h.origin_lt_stop hm hne

end Language.Lexer

/-! ### Matches counted -/

namespace Scan

variable {embed : Embed} {o : Options} {l : Lexer} {text : Text} {k : Cache} {count : Nat}

/-- How many matches were counted in some calls. -/
def spentIn (embed : Embed) (qs : List Call) : Nat := (qs.map fun q => (q.run embed).spent).sum

theorem spentIn_append (qs qs' : List Call) :
    spentIn embed (qs ++ qs') = spentIn embed qs + spentIn embed qs' := by
  rw [spentIn, List.map_append, List.sum_append]
  rfl

theorem allScopes_spent {start : Nat} {parts : List (Span text.size × Target)} :
    (allScopes embed text start parts k count).spent =
      spentIn embed (allCalls embed text start parts k count) := by
  induction parts generalizing k count with
  | nil => rfl
  | cons p parts ih =>
    obtain ⟨part, target⟩ := p
    have hpart : (partScopes embed text start part target k count).spent =
        spentIn embed (partCalls part target k count) := by
      cases target <;> rfl
    rw [allScopes, allCalls, spentIn_append, ← hpart]
    cases h : (partScopes embed text start part target k count).error? with
    | some e => rw [Run.andThen_of_some h, Run.onward_of_some h]; rfl
    | none => rw [Run.andThen_of_none h, Run.onward_of_none h, ← ih]

/-- A match counts for one, whether it may be counted or not. -/
theorem take_spent {cursor origin : Nat} {m : Match text.size origin} :
    (take embed o l text cursor m k count).spent =
      1 + spentIn embed (takeCalls embed o l text m k count) := by
  rcases Run.counted_cases (α := Chunk) o k count with hs | ⟨_, _, _, hs⟩
  · rw [take, takeCalls, hs, hs, Nat.add_comm 1]
    exact congrArg (· + 1) allScopes_spent
  · rw [take, takeCalls, hs, hs]
    rfl

theorem counted_spent (o : Options) (k : Cache) (count : Nat) :
    (Run.counted o k count (.done (α := Chunk) [] k)).spent = 1 := by
  rcases Run.counted_cases (α := Chunk) o k count with hs | ⟨_, _, _, hs⟩ <;> rw [hs] <;> rfl

theorem andThen_spent_le {r : Run Chunk} {next : Cache → Nat → Run Chunk} {here : List Call}
    {later : Cache → Nat → List Call} {b : Nat} (hr : r.spent = 1 + spentIn embed here)
    (hn : ∀ k spent, (next k spent).spent ≤ b + spentIn embed (later k spent)) :
    (r.andThen next).spent ≤ b + 1 + spentIn embed (here ++ r.onward later) := by
  rw [spentIn_append]
  cases h : r.error? with
  | some e =>
    rw [Run.andThen_of_some h]
    omega
  | none =>
    have := hn r.cache r.spent
    rw [Run.andThen_of_none h, Run.onward_of_none h]
    simp only
    omega

/-- A scan whose course has an end counts its matches and those of its calls. -/
theorem follow_spent_le {course : Course text.size} {b : Nat} (h : course.matches? = some b) :
    (follow embed o l text course k count).spent ≤
      b + spentIn embed (calls embed o l text course k count) := by
  induction course generalizing b k count with
  | finish cursor => exact Nat.zero_le _
  | pass m rest ih =>
    obtain ⟨b, hb, rfl⟩ := Option.map_eq_some_iff.1 h
    have hone : (Run.counted o k count (.done (α := Chunk) [] k)).spent = 1 + spentIn embed [] :=
      counted_spent o k count
    exact andThen_spent_le hone fun k spent => ih hb
  | take cursor m rest ih =>
    obtain ⟨b, hb, rfl⟩ := Option.map_eq_some_iff.1 h
    exact andThen_spent_le take_spent fun k spent => ih hb
  | again cursor m => cases h

/-- A scan whose course has no end does not succeed. -/
theorem follow_error?_of_endless {course : Course text.size} (h : course.matches? = none) :
    (follow embed o l text course k count).error? ≠ none := by
  intro hok
  induction course generalizing k count with
  | finish cursor => cases h
  | pass m rest ih =>
    obtain ⟨-, hrest, -⟩ := Run.andThen_error? hok
    exact ih (Option.map_eq_none_iff.1 h) hrest
  | take cursor m rest ih =>
    obtain ⟨-, hrest, -⟩ := Run.andThen_error? hok
    exact ih (Option.map_eq_none_iff.1 h) hrest
  | again cursor m => exact takeAgain_error? m _ cursor hok

end Scan

/-! ### Limits -/

/-- The error that stops a scan when it counts its match number `total`, if any does. -/
def Options.exceeded? (o : Options) (total : Nat) : Option Error :=
  o.matchLimit.bind fun limit => if limit < total then some (.matchLimitExceeded limit) else none

/-- How a scan without end ends. Without a limit it does not. -/
def Options.stopped (o : Options) : Error := o.matchLimit.elim .stalled .matchLimitExceeded

/-- No group is in another language. -/
def Language.Lexer.EmbedsNothing (l : Lexer) : Prop := ∀ name, some (.language name) ∉ l.targets

theorem Language.Lexer.EmbedsNothing.parts {l : Lexer} (h : l.EmbedsNothing) {n origin : Nat}
    {m : Match n origin} : ∀ p ∈ l.parts m, ∀ name, p.2 ≠ .language name := by
  intro p hp name hname
  obtain ⟨⟨target?, i⟩, hmem, hp⟩ := List.mem_filterMap.1 hp
  simp only [Option.bind_eq_bind, Option.bind_eq_some_iff] at hp
  obtain ⟨g, -, part, -, target, rfl, hp⟩ := hp
  obtain rfl := Option.some.inj hp
  obtain rfl : target = .language name := hname
  exact h name (List.fst_mem_of_mem_zipIdx (List.mem_of_mem_drop hmem))

namespace Options

variable {o : Options}

theorem exceeded?_eq_none {total : Nat} :
    o.exceeded? total = none ↔ ∀ limit ∈ o.matchLimit, total ≤ limit := by
  unfold exceeded?
  cases o.matchLimit <;> simp

theorem exceeded?_eq_some {total : Nat} {e : Error} (h : o.exceeded? total = some e) :
    e = o.stopped := by
  unfold exceeded? at h
  unfold stopped
  cases hl : o.matchLimit with
  | none => simp [hl] at h
  | some limit =>
    simp only [hl, Option.bind_some, Option.ite_none_right_eq_some] at h
    exact (Option.some.inj h.2).symm

theorem counted_error? (k : Cache) (count : Nat) {r : Run Chunk} (hr : r.error? = none) :
    (Run.counted o k count r).error? = o.exceeded? (count + 1) := by
  unfold Run.counted exceeded?
  cases o.matchLimit with
  | none => exact hr
  | some limit =>
    simp only [Option.bind_some, Nat.lt_succ_iff]
    split
    · rfl
    · exact hr

end Options

namespace Scan

variable {embed : Embed} {o : Options} {l : Lexer} {text : Text} {k : Cache} {count : Nat}

theorem allScopes_alone {start : Nat} {parts : List (Span text.size × Target)}
    (h : ∀ p ∈ parts, ∀ name, p.2 ≠ .language name) :
    (allScopes embed text start parts k count).error? = none ∧
      allCalls embed text start parts k count = [] := by
  induction parts generalizing k count with
  | nil => exact ⟨rfl, rfl⟩
  | cons p parts ih =>
    obtain ⟨part, target⟩ := p
    obtain ⟨hp, hps⟩ := List.forall_mem_cons.1 h
    cases target with
    | language name => exact absurd rfl (hp name)
    | scope name => exact ih hps

theorem take_alone (hl : l.EmbedsNothing) (cursor : Nat) {origin : Nat}
    (m : Match text.size origin) :
    (take embed o l text cursor m k count).error? = o.exceeded? (count + 1) ∧
      (take embed o l text cursor m k count).spent = 1 := by
  have halone : ∀ k count, (allScopes embed text m.span.start (l.parts m) k count).error? = none ∧
      allCalls embed text m.span.start (l.parts m) k count = [] :=
    fun _ _ => allScopes_alone hl.parts
  refine ⟨Options.counted_error? k count (halone k (count + 1)).1, ?_⟩
  have hcalls : takeCalls embed o l text m k count = [] := by
    unfold takeCalls Run.onward
    split
    · rfl
    · exact (halone _ _).2
  rw [take_spent, hcalls]
  rfl

theorem andThen_ends {r : Run Chunk} {next : Cache → Nat → Run Chunk} {total : Nat}
    (hr : r.error? = o.exceeded? total) (hlimit : ∀ limit ∈ o.matchLimit, total ≤ limit)
    (hn : (next r.cache r.spent).error? = none) : (r.andThen next).error? = none := by
  rw [Options.exceeded?_eq_none.2 hlimit] at hr
  rw [Run.andThen_of_none hr]
  exact hn

theorem andThen_stopped {r : Run Chunk} {next : Cache → Nat → Run Chunk} {total : Nat}
    (hr : r.error? = o.exceeded? total)
    (hn : o.exceeded? total = none → (next r.cache r.spent).error? = some o.stopped) :
    (r.andThen next).error? = some o.stopped := by
  cases h : o.exceeded? total with
  | some e =>
    rw [h] at hr
    rw [Run.andThen_of_some hr, hr, Options.exceeded?_eq_some h]
  | none =>
    rw [h] at hr
    rw [Run.andThen_of_none hr]
    exact hn h

/-- A course that ends within the limit is followed to its end. -/
theorem follow_ends (hl : l.EmbedsNothing) {course : Course text.size} {b : Nat}
    (h : course.matches? = some b) (hlimit : ∀ limit ∈ o.matchLimit, count + b ≤ limit) :
    (follow embed o l text course k count).error? = none := by
  induction course generalizing b k count with
  | finish cursor => rfl
  | pass m rest ih =>
    obtain ⟨b, hb, rfl⟩ := Option.map_eq_some_iff.1 h
    refine andThen_ends (Options.counted_error? k count rfl) (fun limit hmem => ?_) (ih hb ?_)
    · exact Nat.le_trans (by omega) (hlimit limit hmem)
    · rw [counted_spent, Nat.add_right_comm]
      exact hlimit
  | take cursor m rest ih =>
    obtain ⟨b, hb, rfl⟩ := Option.map_eq_some_iff.1 h
    obtain ⟨herror, hone⟩ := take_alone hl cursor m
    refine andThen_ends herror (fun limit hmem => ?_) (ih hb ?_)
    · exact Nat.le_trans (by omega) (hlimit limit hmem)
    · rw [hone, Nat.add_right_comm]
      exact hlimit
  | again cursor m => cases h

theorem takeAgain_stopped (hl : l.EmbedsNothing) {origin : Nat} (m : Match text.size origin)
    {more : Nat} (cursor : Nat) (hlimit : ∀ limit ∈ o.matchLimit, limit ≤ count + more) :
    (takeAgain embed o l text m more cursor k count).error? = some o.stopped := by
  induction more generalizing cursor k count with
  | zero =>
    refine andThen_stopped (take_alone hl cursor m).1 fun hnone => ?_
    rw [Options.exceeded?_eq_none] at hnone
    unfold Options.stopped
    cases h : o.matchLimit with
    | none => rfl
    | some limit =>
      have := hnone limit h
      have := hlimit limit h
      omega
  | succ more ih =>
    obtain ⟨herror, hone⟩ := take_alone hl cursor m
    refine andThen_stopped herror fun _ => ih _ ?_
    rw [hone, Nat.add_right_comm]
    exact hlimit

/-- A course without end is followed until the limit is exceeded. -/
theorem follow_stopped (hl : l.EmbedsNothing) {course : Course text.size}
    (h : course.matches? = none) :
    (follow embed o l text course k count).error? = some o.stopped := by
  induction course generalizing k count with
  | finish cursor => cases h
  | pass m rest ih =>
    exact andThen_stopped (Options.counted_error? k count rfl) fun _ =>
      ih (Option.map_eq_none_iff.1 h)
  | take cursor m rest ih =>
    exact andThen_stopped (take_alone hl cursor m).1 fun _ => ih (Option.map_eq_none_iff.1 h)
  | again cursor m =>
    refine takeAgain_stopped hl m cursor fun limit hmem => ?_
    rw [Option.mem_def.1 hmem, Option.getD_some]
    omega

end Scan

/-- If no search that a scan comes to takes a match that ends where the search began, the scan
counts at most one match more than the text has characters, beside those in other languages; so a
lexer that embeds nothing stays within any limit as large as that. Otherwise no scan succeeds: it
exceeds every limit, and without one it has no end. -/
theorem scan_progress [Engine] (l : Lexer) (text : Text) :
    (l.Advances text ↔ ∃ b ≤ text.size + 1, (l.course text).matches? = some b) ∧
    ∀ (c : Catalogue) (o : Options) (levels : Nat) (k : Cache) (count : Nat),
      let embed := Scan.embedding c o levels
      let r := scan c o levels l text k count
      (l.Advances text → r.spent ≤ text.size + 1 +
        Scan.spentIn embed (Scan.calls embed o l text (l.course text) k count)) ∧
      (l.EmbedsNothing → l.Advances text →
        (∀ limit ∈ o.matchLimit, count + (text.size + 1) ≤ limit) → r.error? = none) ∧
      (¬l.Advances text → r.error? ≠ none) ∧
      (l.EmbedsNothing → ¬l.Advances text →
        r.error? = some (o.matchLimit.elim .stalled .matchLimitExceeded)) := by
  refine ⟨Lexer.advances_iff, fun c o levels k count => ?_⟩
  simp only [scan_eq_follow]
  refine ⟨fun h => ?_, fun hl h hlimit => ?_, fun h => ?_, fun hl h => ?_⟩
  · obtain ⟨b, hb, hcourse⟩ := Lexer.advances_iff.1 h
    exact Nat.le_trans (Scan.follow_spent_le hcourse) (Nat.add_le_add_right hb _)
  · obtain ⟨b, hb, hcourse⟩ := Lexer.advances_iff.1 h
    refine Scan.follow_ends hl hcourse fun limit hmem => Nat.le_trans ?_ (hlimit limit hmem)
    exact Nat.add_le_add_left hb _
  · exact Scan.follow_error?_of_endless (Lexer.matches?_of_not_advances h)
  · exact Scan.follow_stopped hl (Lexer.matches?_of_not_advances h)

/-- A b after an a is matched together with the a, which was matched before. -/
def overlapping : Definition :=
  ⟨"overlapping", "Overlapping", .names [], [⟨"a", .empty⟩, ⟨"(?<=\\Ka)b", .empty⟩]⟩

/-- An a is matched by looking back at it. -/
def standing : Definition := ⟨"standing", "Standing", .names [], [⟨"(?<=\\Ka)", .empty⟩]⟩

/-- A match may start before its search, but it has to end behind that. -/
theorem scan_progress_overlapping : ∃ l l', Lexer.compile overlapping = .ok l ∧
    Lexer.compile standing = .ok l' ∧ l.EmbedsNothing ∧ l'.EmbedsNothing ∧
    l.Advances (Text.ofString "ab") ∧ ¬l'.Advances (Text.ofString "a") ∧
    (scan .empty ⟨16, some 3⟩ 16 l (Text.ofString "ab") .empty 0).error? = none ∧
    (scan .empty ⟨16, some 3⟩ 16 l (Text.ofString "ab") .empty 0).items.map (·.text) = ["a", "ab"] ∧
    (scan .empty ⟨16, some 2⟩ 16 l' (Text.ofString "a") .empty 0).error? =
      some (.matchLimitExceeded 2) := by
  have hends : (Lexer.compile overlapping).toOption.any fun l => l.targets.all (·.isNone) &&
      (l.course (Text.ofString "ab")).matches? = some 2 &&
        (scan .empty ⟨16, some 3⟩ 16 l (Text.ofString "ab") .empty 0).items.map (·.text) =
          ["a", "ab"] := by
    decide +kernel
  have hendless : (Lexer.compile standing).toOption.any fun l => l.targets.all (·.isNone) &&
      (l.course (Text.ofString "a")).matches? = none := by
    decide +kernel
  obtain ⟨l, hl, hends⟩ := exists_ok_of_any hends
  obtain ⟨l', hl', hendless⟩ := exists_ok_of_any hendless
  simp only [Bool.and_eq_true, decide_eq_true_eq] at hends hendless
  obtain ⟨⟨htargets, htwo⟩, htexts⟩ := hends
  obtain ⟨htargets', hnone⟩ := hendless
  have hembeds : ∀ {l : Lexer}, l.targets.all (·.isNone) → l.EmbedsNothing := by
    intro l h name hmem
    cases List.all_eq_true.1 h _ hmem
  obtain ⟨hiff, hscan⟩ := scan_progress l (Text.ofString "ab")
  obtain ⟨hiff', hscan'⟩ := scan_progress l' (Text.ofString "a")
  have hadvances := hiff.2 ⟨2, by decide, htwo⟩
  have hnot : ¬l'.Advances (Text.ofString "a") := by
    intro h
    obtain ⟨b, -, hb⟩ := hiff'.1 h
    rw [hnone] at hb
    cases hb
  refine ⟨l, l', hl, hl', hembeds htargets, hembeds htargets', hadvances, hnot, ?_, htexts, ?_⟩
  · refine (hscan .empty ⟨16, some 3⟩ 16 .empty 0).2.1 (hembeds htargets) hadvances
      fun limit hmem => ?_
    obtain rfl := Option.some.inj hmem
    exact Nat.le_refl 3
  · exact (hscan' .empty ⟨16, some 2⟩ 16 .empty 0).2.2.2 (hembeds htargets') hnot

end ScopeLexer
