import ScopeLexer.Regex.Program
import ScopeLexer.Regex.Thread

/-! Backtracking matching. A matcher takes a thread and a continuation; it tries its ways in order
and the first one that the continuation accepts wins. Turns of a loop either take text or change a
watched group or end the loop, so the text that is left and the groups bound them; a bound on the
depth of calls makes matching total. -/

namespace ScopeLexer.Regex

/-! ### Atoms -/

/-- The character at `i`, if it lies before the limit. -/
def charAt? (text : Text) (limit i : Nat) : Option Char := if i < limit then text[i]? else none

/-- Whether the characters from `i` on start with these. -/
def startsWith (text : Text) (limit : Nat) : List Char → Nat → Bool
  | [], _ => true
  | c :: cs, i => charAt? text limit i = some c && startsWith text limit cs (i + 1)

/-- The characters at `i`, `count` of them, each with its folding if that is one character. -/
def foldedAt (text : Text) (limit i : Nat) : Nat → Option (List Char)
  | 0 => some []
  | count + 1 => do
    let [c] := Unicode.fold (← charAt? text limit i) | none
    return c :: (← foldedAt text limit (i + 1) count)

/-- Where a run that ignores case can end. One character of the run may be spelled with several of
the text, and two or three of the run with one of the text, if `spelled` holds. -/
def foldedEnds (text : Text) (limit : Nat) (spelled : Bool) : List Char → Nat → List Nat
  | [], i => [i]
  | p :: ps, i =>
    match charAt? text limit i with
    | none => []
    | some c =>
      let here := Unicode.fold c
      let own := Unicode.fold p
      let direct := if here = own then foldedEnds text limit spelled ps (i + 1) else []
      let spread :=
        if spelled ∧ 1 < own.length ∧ foldedAt text limit i own.length = some own then
          foldedEnds text limit spelled ps (i + own.length)
        else []
      let joined :=
        match ps with
        | q :: qs =>
          (if spelled ∧ here.length = 2 ∧ here = own ++ Unicode.fold q then
            foldedEnds text limit spelled qs (i + 1)
          else []) ++
          match qs with
          | r :: rs =>
            if spelled ∧ here.length = 3 ∧ here = own ++ Unicode.fold q ++ Unicode.fold r then
              foldedEnds text limit spelled rs (i + 1)
            else []
          | [] => []
        | [] => []
      direct ++ spread ++ joined
termination_by cs => cs.length
decreasing_by all_goals simp only [List.length_cons]; omega

/-- The positions at which an atom that starts at `i` can end, the preferred one first. -/
def Atom.ends (text : Text) (limit i : Nat) : Atom → List Nat
  | chars cs => if startsWith text limit cs i then [i + cs.length] else []
  | set s =>
    match charAt? text limit i with
    | some c => if s.contains c then [i + 1] else []
    | none => []
  | folded cs spelled => foldedEnds text limit spelled cs i
  | foldedSet s negated spelled =>
    match charAt? text limit i with
    | none => []
    | some c =>
      (if s.containsFolded c != negated then [i + 1] else []) ++
      (if spelled && !negated then
        [2, 3].filterMap fun n =>
          (foldedAt text limit i n).bind fun cs =>
            if s.containsSpelled cs then some (i + n) else none
      else [])

/-! ### Assertions -/

def wordAt (text : Text) (i : Nat) : Bool := (text[i]?).any isWordCharacter

def wordBefore (text : Text) (i : Nat) : Bool := i != 0 && wordAt text (i - 1)

/-- Whether an assertion holds at `i` in a search that started at `origin`. At the start of the text
there are words only in the text that may be taken. -/
def Assertion.holds (text : Text) (origin limit i : Nat) : Assertion → Bool
  | lineStart => i = 0 || (i < text.size && text[i - 1]? = some '\n')
  | lineEnd => i = text.size || text[i]? = some '\n'
  | textStart => i = 0
  | textEnd => i = text.size
  | lastLineEnd => i = text.size || (i + 1 = text.size && text[i]? = some '\n')
  | wordBoundary => wordBefore text i != (wordAt text i && (i != 0 || limit != 0))
  | wordInterior => wordBefore text i == (wordAt text i && (i != 0 || limit != 0))
  | searchStart => i = origin

/-! ### Loops -/

abbrev Accept := Thread → Option Thread

abbrev Matcher := Thread → Accept → Option Thread

/-- Whether a turn from `t` to `u` ends the loop: it neither took text nor changed a group. With a
number, the last turn of the loop that did not go on counts, which may lie within this one. -/
def Watch.stalls (w : Watch) (t u : Thread) : Bool :=
  let began := match w.number with
    | some n => Thread.lastTurn n 0 u.turns
    | none => some (t.pos, t.trail)
  began.any fun (pos, trail) =>
    u.pos = pos && !w.groups.any (Thread.changed · (u.trail.length - trail.length) u.trail)

/-- A thread at the start of a turn. -/
def Watch.began (w : Watch) (t : Thread) : Thread :=
  w.number.elim t fun n => t.note (.began n t.pos t.trail)

/-- A thread after a turn that does not end the loop. -/
def Watch.wentOn (w : Watch) (t : Thread) : Thread := w.number.elim t fun n => t.note (.wentOn n)

namespace Matcher

/-- A matcher whose text is kept as group `i`. -/
def captured (i : Nat) (m : Matcher) : Matcher := fun t accept =>
  m (t.record (.opened i t.pos)) fun u => accept (u.record (.closed i t.pos u.pos))

/-- A matcher that runs as a call. -/
def entered (m : Matcher) : Matcher := fun t accept =>
  m (t.record .called) fun u => accept (u.record .returned)

/-- Turns of a loop, at most `fuel` of them, with between `least` and `most` still to go. -/
def turns (m : Matcher) (greedy : Bool) (watch : Option Watch) :
    (fuel least : Nat) → (most : Option Nat) → Matcher
  | 0, _, _, t, accept => accept t
  | fuel + 1, least, most, t, accept =>
    let again := fun (_ : Unit) => m (watch.elim t (·.began t)) fun u =>
      if watch.any (·.stalls t u) then accept u
      else
        turns m greedy watch fuel (least - 1) (most.map (· - 1)) (watch.elim u (·.wentOn u)) accept
    if most = some 0 then accept t
    else if 0 < least then again ()
    else if greedy then (again ()).or (accept t)
    else (accept t).or (again ())

/-- As many turns as may be needed from a thread on. -/
def loop (text : Text) (m : Matcher) (least : Nat) (most : Option Nat) (greedy : Bool)
    (watch : Option Watch) : Matcher := fun t accept =>
  let watched := watch.elim 0 (·.groups.length)
  m.turns greedy watch ((text.size + 1 - t.pos) * (watched + 1)) least most t accept

end Matcher

/-! ### Programs -/

/-- Where a look-behind from `pos` on starts, the nearest place first. -/
def Back.starts (pos : Nat) : Back → List Nat
  | exact n => if n ≤ pos then [pos - n] else []
  | between least most =>
    (List.range' least (min pos (most.getD pos) + 1 - least)).map (pos - ·)

/-- Matches a program. What is not tried again in another way keeps no turns. A look-behind with a
choice of starts has to end where it stands, and takes no text beyond that. -/
def Program.matcher (text : Text) (origin : Nat) (enter : Nat → Matcher) : Program → Matcher
  | empty, t, accept => accept t
  | atom a, t, accept => (a.ends text t.limit t.pos).findSome? fun i => accept (t.moveTo i)
  | assertion a, t, accept => if a.holds text origin t.limit t.pos then accept t else none
  | seq p q, t, accept =>
    p.matcher text origin enter t fun u => q.matcher text origin enter u accept
  | alt p q, t, accept =>
    (p.matcher text origin enter t accept).or (q.matcher text origin enter t accept)
  | loop p least most greedy watch, t, accept =>
    Matcher.loop text (p.matcher text origin enter) least most greedy watch t accept
  | group i p, t, accept => Matcher.captured i (p.matcher text origin enter) t accept
  | atomic p, t, accept =>
    (p.matcher text origin enter t some).bind fun u => accept { u with turns := t.turns }
  | ahead negated p, t, accept =>
    match p.matcher text origin enter t some with
    | some u => if negated then none else accept { u with pos := t.pos, turns := t.turns }
    | none => if negated then accept t else none
  | behind negated back p, t, accept =>
    let found := match back with
      | .exact _ =>
        (back.starts t.pos).findSome? fun i => p.matcher text origin enter (t.moveTo i) some
      | .between _ _ =>
        (back.starts t.pos).findSome? fun i =>
          p.matcher text origin enter { t with pos := i, limit := t.pos } fun u =>
            if u.pos = t.pos then some { u with limit := t.limit } else none
    match found with
    | some u => if negated then none else accept { u with turns := t.turns }
    | none => if negated then accept t else none
  | same groups foldCase level, t, accept =>
    (t.afterSame text foldCase groups level).bind fun i => accept (t.moveTo i)
  | given negated groups level, t, accept =>
    if t.hasText groups level = negated then none else accept t
  | call i, t, accept => enter i t accept
  | keep, t, accept => accept { t with kept := t.pos }

/-- Matches a group that is called, at most `depth` calls deep. -/
def callMatcher (bodies : Nat → Option Program) (text : Text) (origin : Nat) :
    (depth : Nat) → Nat → Matcher
  | 0, _, _, _ => none
  | depth + 1, i, t, accept =>
    match bodies i with
    | some p =>
      Matcher.entered (p.matcher text origin (callMatcher bodies text origin depth)) t accept
    | none => none

end ScopeLexer.Regex
