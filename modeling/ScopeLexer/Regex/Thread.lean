import ScopeLexer.Regex.CharSet
import ScopeLexer.Regex.Engine

/-! Threads of a match. A thread keeps a trail of what happened to the groups and of the calls, the
last event first; from it the text of a group is read, and a back-reference takes that text again.
Beside the trail it keeps the turns of those loops that a turn may come to again. -/

namespace ScopeLexer.Regex

inductive Event
  | opened (group pos : Nat)
  | closed (group start stop : Nat)
  | called
  | returned
  deriving DecidableEq, Repr

/-- What happened to a turn of a loop: it began, or the loop went on after it. -/
inductive Turn
  | began (loop : Nat × Nat) (pos : Nat) (trail : List Event)
  | wentOn (loop : Nat × Nat)
  deriving DecidableEq, Repr

/-- A position, the start of the match as it will be reported, and the end of the text that may be
taken. -/
structure Thread where
  pos : Nat
  kept : Nat
  limit : Nat
  trail : List Event
  turns : List Turn

namespace Thread

def start (pos limit : Nat) : Thread := ⟨pos, pos, limit, [], []⟩

def moveTo (t : Thread) (pos : Nat) : Thread := { t with pos }

def record (t : Thread) (e : Event) : Thread := { t with trail := e :: t.trail }

/-! ### Groups -/

/-- Where a group lies; a group that is open again has no text. -/
def spanIn (group : Nat) : List Event → Option (Nat × Nat)
  | [] => none
  | .opened g _ :: trail => if g = group then none else spanIn group trail
  | .closed g start stop :: trail => if g = group then some (start, stop) else spanIn group trail
  | _ :: trail => spanIn group trail

def span? (t : Thread) (group : Nat) : Option (Nat × Nat) := spanIn group t.trail

/-- The first opening of a group among the last `count` events, and what happened before it. -/
def firstOpening (group : Nat) : (count : Nat) → List Event → Option (Nat × List Event)
  | count + 1, e :: trail =>
    (firstOpening group count trail).or
      (if let .opened g pos := e then if g = group then some (pos, trail) else none else none)
  | _, _ => none

/-- Whether a group has other text than before the last `count` events. -/
def changed (group : Nat) : (count : Nat) → List Event → Bool
  | count + 1, e :: trail =>
    match e with
    | .closed g _ stop =>
      if g ≠ group then changed group count trail
      else
        (firstOpening group count trail).any fun (start, before) =>
          match spanIn group before with
          | none => true
          | some (a, b) => (a, b) ≠ (start, stop) && !(a = b && start = stop)
    | _ => changed group count trail
  | _, _ => false

/-! ### Turns -/

/-- Where the last turn of a loop began that did not go on, and what had happened before, given how
many turns went on already. -/
def lastTurn (loop : Nat × Nat) : (ended : Nat) → List Turn → Option (Nat × List Event)
  | _, [] => none
  | ended, .wentOn i :: turns => lastTurn loop (if i = loop then ended + 1 else ended) turns
  | ended, .began i pos trail :: turns =>
    if i ≠ loop then lastTurn loop ended turns
    else
      match ended with
      | 0 => some (pos, trail)
      | ended + 1 => lastTurn loop ended turns

def note (t : Thread) (turn : Turn) : Thread := { t with turns := turn :: t.turns }

/-! ### Levels of calls -/

/-- Where one of the groups lies at the level zero of calls, given the level at the end of the
trail. The last end there that comes before a start counts. -/
def spanAtLevel (groups : List Nat) (level : Int) (stop : Option Nat) :
    List Event → Option (Nat × Nat)
  | [] => none
  | .called :: trail => spanAtLevel groups (level - 1) stop trail
  | .returned :: trail => spanAtLevel groups (level + 1) stop trail
  | .closed g _ e :: trail =>
    spanAtLevel groups level (if level = 0 ∧ groups.contains g then some e else stop) trail
  | .opened g s :: trail =>
    match stop with
    | some e =>
      if level = 0 ∧ groups.contains g then some (s, e) else spanAtLevel groups level stop trail
    | none => spanAtLevel groups level stop trail

/-- Whether one of the groups has a text, at a nesting of calls if a level says so. -/
def hasText (t : Thread) (groups : List Nat) : Option Int → Bool
  | none => groups.any fun i => (t.span? i).isSome
  | some level => (spanAtLevel groups (-level) none t.trail).isSome

/-! ### Taking text again -/

def byteCount (text : Text) (start stop : Nat) : Nat :=
  (text.extract start stop).foldl (fun n c => n + c.utf8Size) 0

/-- The number that the first `room` bytes of a longer character spell. -/
def cutNumber (c : Char) (room : Nat) : Nat :=
  match (String.singleton c).toUTF8.toList.map UInt8.toNat with
  | [] => 0
  | lead :: more =>
    if room ≤ 1 then lead
    else (more.take (room - 1)).foldl (fun n b => n * 64 + b % 64) (lead % Nat.pow 2 (7 - room))

/-- The folding of a character for which there is room for so many bytes. A character that does not
fit is folded by what fits of it, if that has a folding. -/
def foldWithin (room : Nat) (c : Char) : List Char :=
  if c.utf8Size ≤ room then Unicode.fold c
  else
    let cut := Char.ofNat (cutNumber c room)
    if Unicode.fold cut = [cut] then [c] else Unicode.fold cut

/-- The end of characters from `pos` on that fold like the old ones, one by one, with room for so
many bytes. -/
def foldedAgain (text : Text) (limit : Nat) : (old : List Char) → (pos room : Nat) → Option Nat
  | [], pos, _ => some pos
  | c :: old, pos, room => do
    let d ← text[pos]?
    if pos < limit ∧ Unicode.fold c = foldWithin room d then
      foldedAgain text limit old (pos + 1) (room - d.utf8Size)
    else none

/-- Where the text between two positions ends if it is taken again. -/
def again (text : Text) (foldCase : Bool) (t : Thread) (start stop : Nat) : Option Nat :=
  let old := (text.extract start stop).toList
  if foldCase then foldedAgain text t.limit old t.pos (byteCount text start stop)
  else if old = (text.extract t.pos (min t.limit (t.pos + (stop - start)))).toList then
    some (t.pos + (stop - start))
  else none

/-- Whether the next `count` characters from `pos` on have so many bytes. -/
def hasBytes (text : Text) : (count pos bytes : Nat) → Bool
  | _, _, 0 => true
  | 0, _, _ => false
  | count + 1, pos, bytes =>
    match text[pos]? with
    | some c => hasBytes text count (pos + 1) (bytes - c.utf8Size)
    | none => false

/-- Whether as many bytes are left as the text between two positions has. -/
def hasRoom (text : Text) (t : Thread) (start stop : Nat) : Bool :=
  hasBytes text (t.limit - t.pos) t.pos (byteCount text start stop)

/-- Where the text of the first of the groups that has one ends if it is taken again. A text that
differs leaves the choice to the next group, but one that is too long for what is left does not. -/
def againAny (text : Text) (foldCase : Bool) (t : Thread) : (groups : List Nat) → Option Nat
  | [] => none
  | group :: groups =>
    match t.span? group with
    | none => againAny text foldCase t groups
    | some (start, stop) =>
      if !t.hasRoom text start stop then none
      else (t.again text foldCase start stop).or (againAny text foldCase t groups)

/-- Where a back-reference ends. The last group is tried first. -/
def afterSame (text : Text) (foldCase : Bool) (t : Thread) (groups : List Nat) :
    Option Int → Option Nat
  | none => t.againAny text foldCase groups.reverse
  | some level => do
    let (start, stop) ← spanAtLevel groups (-level) none t.trail
    if t.hasRoom text start stop then t.again text foldCase start stop else none

end Thread

end ScopeLexer.Regex
