import ScopeLexer.Regex.Length

/-! Look-behind. What stands behind a position is matched from a start that lies a number of
characters before it, so that the lengths of the pattern decide where to start. Patterns that look
ahead have no place in a look-behind. -/

namespace ScopeLexer.Regex

/-- How far back a look-behind starts: one distance, or any of several, the least one first. -/
inductive Back
  | exact (n : Nat)
  | between (least : Nat) (most : Option Nat)
  deriving DecidableEq, Repr

def Reach.back (r : Reach) : Back := if r.isFixed then .exact r.least else .between r.least r.most

/-- How far back a look-behind may start. -/
def behindLimit : Nat := 0xFFFF

def Reach.isTooLong (r : Reach) : Bool :=
  behindLimit < r.least || r.most.any (behindLimit < ·)

namespace Pattern

/-! ### What may stand in a look-behind -/

/-- Whether a look-behind may hold a pattern that lies in the groups `inside`, given that for calls.
A negated one keeps no groups, and one that is not negated holds no negated one. -/
def fitsBehind (callFits : List Nat → Nat → Bool) (negated : Bool) (inside : List Nat) :
    Pattern Nat → Bool
  | assertion a => a ≠ .textEnd ∧ a ≠ .lastLineEnd
  | seq p q | alt p q =>
    p.fitsBehind callFits negated inside && q.fitsBehind callFits negated inside
  | loop p _ _ _ | atomic p => p.fitsBehind callFits negated inside
  | group i p => !negated && p.fitsBehind callFits negated (i :: inside)
  | ahead _ _ => false
  | behind inner p => (negated || !inner) && p.fitsBehind callFits negated inside
  | call i => callFits inside i
  | _ => true

/-- Whether a look-behind may hold a call in the groups `inside`, following so many calls. Groups
that are settled count as what they became. A call that comes to one of `inside` is not followed. -/
def callFits (whole : Pattern Nat) (count : Nat) (settled : List (Nat × Pattern Nat))
    (negated : Bool) : (steps : Nat) → (inside : List Nat) → Nat → Bool
  | 0, _, _ => true
  | steps + 1, inside, i =>
    whole.comesTo count [i] inside ||
      !negated && (whole.part? i [0]).all fun (inside, p) =>
        ((settled.lookup i).getD p).fitsBehind
          (whole.callFits count settled negated steps) negated inside

/-- Whether the pattern calls a group, or holds one that is used elsewhere. -/
def isUsed (used : Nat → Bool) : Pattern Nat → Bool
  | call _ => true
  | group i p => used i || p.isUsed used
  | seq p q | alt p q => p.isUsed used || q.isUsed used
  | loop p _ _ _ | atomic p | ahead _ p | behind _ p => p.isUsed used
  | _ => false

/-- Whether the length of the pattern, which lies in the groups `inside`, hangs on a run that
ignores case, given that for groups; its own runs count where `unsettled` holds. -/
def hasFoldedRun (callHas : List Nat → Nat → Bool) (groupHas : Nat → Bool) (unsettled : Bool)
    (inside : List Nat) : Pattern Nat → Bool
  | atom (.folded _ _) => unsettled
  | seq p q | alt p q =>
    p.hasFoldedRun callHas groupHas unsettled inside ||
      q.hasFoldedRun callHas groupHas unsettled inside
  | loop p _ most _ => most ≠ some 0 && p.hasFoldedRun callHas groupHas unsettled inside
  | group i p => p.hasFoldedRun callHas groupHas unsettled (i :: inside)
  | atomic p => p.hasFoldedRun callHas groupHas unsettled inside
  | same groups inner _ _ => !inner && groups.any groupHas
  | call i => callHas inside i
  | _ => false

/-- Whether the length of a group hangs on a run that ignores case and is not settled yet, following
so many references. -/
def groupHasFoldedRun (whole : Pattern Nat) (count : Nat) (settled : List (Nat × Pattern Nat)) :
    (steps : Nat) → Nat → Bool
  | 0, _ => false
  | steps + 1, i =>
    let follow := whole.groupHasFoldedRun count settled steps
    (whole.part? i [0]).any fun (inside, p) =>
      p.hasFoldedRun (fun inside j => !whole.comesTo count [j] inside && follow j) follow
        (settled.lookup i).isNone inside

/-- Whether the length of a pattern in the groups `inside`, itself settled, hangs on a run that
ignores case in a group that is not. -/
def looksForward (whole : Pattern Nat) (count : Nat) (settled : List (Nat × Pattern Nat))
    (inside : List Nat) (p : Pattern Nat) : Bool :=
  let follow := whole.groupHasFoldedRun count settled (count + 1)
  p.hasFoldedRun (fun inside j => !whole.comesTo count [j] inside && follow j) follow false inside

/-! ### Shortening -/

/-- A loop in front takes as little as it may; what it could take before that is not asked for. -/
def leastLoop : Pattern Nat → Pattern Nat
  | loop p least most greedy =>
    match p with
    | atom _ | same _ _ _ _ => loop p least (some least) greedy
    | _ => loop p least most greedy
  | p => p

/-- A branch of a look-behind with the loops in front cut down. -/
def cutFront : Pattern Nat → Pattern Nat
  | seq p q =>
    match p.leastLoop with
    | loop p 0 (some 0) greedy => seq (loop p 0 (some 0) greedy) q.cutFront
    | p => seq p q
  | p => p.leastLoop

/-- A look-behind's pattern with the loops in front of its branches cut down. -/
def cutFronts : Pattern Nat → Pattern Nat
  | alt p q => alt p.cutFront q.cutFronts
  | p => p.cutFront

/-! ### Settling -/

/-- A look-behind by the lengths of its pattern. One for which nothing need stand behind holds
everywhere, unless its groups are used. Branches of unlike lengths, all of them fixed but perhaps
the first, are looked for one by one. -/
def lookBehind (reachOf : Pattern Nat → Reach) (used : Nat → Bool) (negated : Bool)
    (p : Pattern Nat) : Except Fault (Pattern Nat) :=
  if (reachOf p).isTooLong then .error .badBehind
  else if (reachOf p).least = 0 ∧ (reachOf p).sure ∧ !p.isUsed used then
    .ok (if negated then fail else empty)
  else
    match p with
    | alt q rest =>
      if !(reachOf p).isFixed ∧ rest.branches.all fun b => (reachOf b).isFixed then do
        let first ← lookBehind reachOf used negated q
        let others ← lookBehind reachOf used negated rest
        return if negated then seq first others else alt first others
      else .ok (behind negated p)
    | _ => .ok (behind negated p)

/-- A run of characters a fixed number of times is a run, if it is short. -/
def repeated? : Pattern Nat → Nat → Option Nat → Option (List Char)
  | atom (.chars cs), least, most =>
    if most = some least ∧ 1 < least ∧ least * (String.ofList cs).utf8ByteSize ≤ 100 then
      some (List.replicate least cs).flatten
    else none
  | _, _, _ => none

/-- Settles every look-behind and every short run of a pattern that lies in the groups `inside`. The
state holds the groups that are settled. -/
def settle (whole : Pattern Nat) (count : Nat) (inside : List Nat) :
    Pattern Nat → StateT (List (Nat × Pattern Nat)) (Except Fault) (Pattern Nat)
  | seq p q => return seq (← settle whole count inside p) (← settle whole count inside q)
  | alt p q => return alt (← settle whole count inside p) (← settle whole count inside q)
  | loop p least most greedy => do
    let q ← settle whole count inside p
    return match q.repeated? least most with
      | some cs => atom (.chars cs)
      | none => loop q least most greedy
  | group i p => do
    let q ← settle whole count (i :: inside) p
    modify ((i, q) :: ·)
    return group i q
  | atomic p => return atomic (← settle whole count inside p)
  | ahead negated p => return ahead negated (← settle whole count inside p)
  | behind negated p => do
    let callFits := whole.callFits count (← get) negated (count + 1)
    if !p.fitsBehind callFits negated inside then throw .badBehind
    let q := (← settle whole count inside p).cutFronts
    if whole.looksForward count (← get) inside q then throw .badBehind
    lookBehind (·.reach (whole.groupReach (count + 1)) inside)
      (whole.called ++ whole.referred).contains negated q
  | p => return p

end Pattern

end ScopeLexer.Regex
