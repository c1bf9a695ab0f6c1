import ScopeLexer.Regex.Pattern

/-! Recursion without end. A group must not call itself on every way through it, nor before any text
was taken. Whether text was taken is found out along the way: a group is looked at once, and a call
that comes back counts as empty as long as its group was not looked at. -/

namespace ScopeLexer.Regex

/-- How a pattern comes to a group: on all of its ways, or on one without taking text before. -/
structure Recurrence where
  always : Bool
  atOnce : Bool
  deriving DecidableEq, Repr

namespace Recurrence

def never : Recurrence := ⟨false, false⟩

def isEndless (r : Recurrence) : Bool := r.always || r.atOnce

end Recurrence

/-- The groups that were looked at, each with whether all of its matches take text. -/
abbrev Known := List (Nat × Bool)

namespace Pattern

/-- The body of group `i` of a whole pattern and the groups that it lies in. -/
def place? (whole : Pattern Nat) (i : Nat) : Option (List Nat × Pattern Nat) :=
  if i = 0 then some ([0], whole) else whole.part? i [0]

/-! ### Taking text -/

/-- Finds whether every match takes text, given that for groups and which calls come back. -/
def findsText (lookAt : Nat → StateM Known Bool) (comesBack : Nat → Bool) :
    Pattern Nat → StateM Known Bool
  | atom _ => return true
  | seq p q => do
    let first ← p.findsText lookAt comesBack
    let second ← q.findsText lookAt comesBack
    return first || second
  | alt p q => do
    let first ← p.findsText lookAt comesBack
    let second ← q.findsText lookAt comesBack
    return first && second
  | loop p least _ _ => if least = 0 then return false else p.findsText lookAt comesBack
  | group i _ => lookAt i
  | atomic p => p.findsText lookAt comesBack
  | same groups inside _ _ =>
    if inside then return false else return (← groups.mapM lookAt).all id
  | call i => do
    if comesBack i && ((← get).lookup i).isNone then return false else lookAt i
  | _ => return false

/-- Finds whether every match of a group takes text, following so many groups. Those in `busy` count
as empty. -/
def groupFindsText (whole : Pattern Nat) (count : Nat) :
    (steps : Nat) → (busy : List Nat) → Nat → StateM Known Bool
  | 0, _, _ => return false
  | steps + 1, busy, i => do
    match (← get).lookup i, whole.place? i with
    | some known, _ => return known
    | none, none => return false
    | none, some (inside, p) =>
      if busy.contains i then return false
      let known ← p.findsText (whole.groupFindsText count steps (i :: busy))
        (whole.comesTo count [·] inside)
      modify ((i, known) :: ·)
      return known

/-! ### Coming to a group -/

/-- How a pattern comes to the target, given how the groups that it calls do and which patterns take
text. The groups in `path` are already being followed; `fresh` holds where no text was taken yet. -/
def recurrence (target : Nat) (takesText : List Nat → Pattern Nat → StateM Known Bool)
    (groupRecurrence : List Nat → Nat → Bool → StateM Known Recurrence) (path inside : List Nat)
    (fresh : Bool) : Pattern Nat → StateM Known Recurrence
  | seq p q => do
    let first ← p.recurrence target takesText groupRecurrence path inside fresh
    let fresh := fresh && !(← if fresh then takesText inside p else pure true)
    let second ← q.recurrence target takesText groupRecurrence path inside fresh
    match q with
    | seq _ _ => pure ()
    | _ => if fresh then discard (takesText inside q)
    return ⟨first.always || second.always, first.atOnce || second.atOnce⟩
  | alt p q => do
    let first ← p.recurrence target takesText groupRecurrence path inside fresh
    let second ← q.recurrence target takesText groupRecurrence path inside fresh
    return ⟨first.always && second.always, first.atOnce || second.atOnce⟩
  | loop p least most _ => do
    if most = some 0 then return .never
    let body ← p.recurrence target takesText groupRecurrence path inside fresh
    return ⟨0 < least && body.always, body.atOnce⟩
  | group i p =>
    if path.contains i then return .never
    else if i = target then return ⟨true, fresh⟩
    else p.recurrence target takesText groupRecurrence (i :: path) (i :: inside) fresh
  | atomic p | ahead _ p | behind _ p =>
    p.recurrence target takesText groupRecurrence path inside fresh
  | call i => groupRecurrence path i fresh
  | _ => return .never

/-- How a group comes to the target, following so many calls. -/
def groupRecurrence (whole : Pattern Nat) (target : Nat)
    (takesText : List Nat → Pattern Nat → StateM Known Bool) :
    (steps : Nat) → List Nat → Nat → Bool → StateM Known Recurrence
  | 0, _, _, _ => return .never
  | steps + 1, path, i, fresh =>
    if path.contains i then return .never
    else if i = target then return ⟨true, fresh⟩
    else
      match whole.place? i with
      | some (inside, p) =>
        p.recurrence target takesText (whole.groupRecurrence target takesText steps) (i :: path)
          inside fresh
      | none => return .never

/-- Whether group `i` calls itself without end. -/
def isEndless (whole : Pattern Nat) (count i : Nat) : StateM Known Bool :=
  let takesText := fun inside (p : Pattern Nat) =>
    p.findsText (whole.groupFindsText count (count + 1) [i]) (whole.comesTo count [·] inside)
  match whole.place? i with
  | none => return false
  | some (inside, p) =>
    if whole.comesTo count p.called inside then
      Recurrence.isEndless <$> p.recurrence i takesText
        (whole.groupRecurrence i takesText (count + 1)) [] inside true
    else return false

/-- Whether a called group calls itself without end. -/
def hasEndlessCall (whole : Pattern Nat) (count : Nat) : Bool :=
  let called := (List.range (count + 1)).filter whole.called.contains
  ((called.anyM (whole.isEndless count)).run []).1

end Pattern

end ScopeLexer.Regex
