import ScopeLexer.Regex.Pattern

/-! How much text a pattern takes. Groups that are called or referred to may lie in one another, so
what is known about them is given as a function of their numbers. -/

namespace ScopeLexer.Regex

namespace Pattern

/-! ### Some text or none -/

/-- Whether every match takes text, given which groups are known to do so. A back-reference inside
one of its own groups promises none. -/
def needsText (known : Nat → Bool) : Pattern Nat → Bool
  | atom _ => true
  | seq p q => p.needsText known || q.needsText known
  | alt p q => p.needsText known && q.needsText known
  | loop p least _ _ => 0 < least && p.needsText known
  | group _ p | atomic p => p.needsText known
  | same groups inside _ _ => !inside && groups.all known
  | call i => known i
  | _ => false

/-- Which of the groups up to `count` take text, as far as chains of so many references show. -/
def textTable (whole : Pattern Nat) (count : Nat) : (steps : Nat) → Array Bool
  | 0 => #[]
  | steps + 1 =>
    let known := whole.textTable count steps
    (Array.range (count + 1)).map fun i =>
      (whole.body? i).any (·.needsText (known[·]?.getD false))

/-- Which groups take text; only those matter that something refers to. -/
def takesText (whole : Pattern Nat) (count : Nat) : Nat → Bool :=
  let known :=
    if whole.called.isEmpty && whole.referred.isEmpty then #[]
    else whole.textTable count (count + 1)
  fun i => known[i]?.getD false

end Pattern

/-! ### Lengths in characters -/

/-- The lengths that a pattern can take; `sure` if the least one surely occurs and nothing else is
asked for. -/
structure Reach where
  least : Nat
  most : Option Nat
  sure : Bool
  deriving DecidableEq, Repr

namespace Reach

def exact (n : Nat) : Reach := ⟨n, some n, true⟩

/-- What takes no text but asks for more than that. -/
def nothing : Reach := ⟨0, some 0, false⟩

def unknown : Reach := ⟨0, none, false⟩

def isFixed (r : Reach) : Bool := r.most = some r.least

def add (r s : Reach) : Reach :=
  ⟨r.least + s.least, do return (← r.most) + (← s.most), r.sure && s.sure⟩

/-- Either of two. -/
def merge (r s : Reach) : Reach :=
  ⟨min r.least s.least, do return max (← r.most) (← s.most),
    if s.least < r.least then s.sure
    else if s.least = r.least then r.sure || s.sure
    else r.sure⟩

def times (r : Reach) (least : Nat) (most : Option Nat) : Reach :=
  if most = some 0 then exact 0
  else ⟨r.least * least, do return (← r.most) * (← most), r.sure⟩

end Reach

def Atom.length : Atom → Nat
  | chars cs | folded cs _ => cs.length
  | _ => 1

namespace Pattern

/-- The lengths of a pattern, given those of the groups that it refers to. -/
def reach (groupReach : List Nat → Nat → Reach) (inside : List Nat) : Pattern Nat → Reach
  | empty | fail | given _ _ _ | keep => .exact 0
  | atom a => .exact a.length
  | assertion _ | ahead _ _ | behind _ _ => .nothing
  | seq p q => (p.reach groupReach inside).add (q.reach groupReach inside)
  | alt p q => (p.reach groupReach inside).merge (q.reach groupReach inside)
  | loop p least most _ => (p.reach groupReach inside).times least most
  | group i p => { p.reach groupReach (i :: inside) with sure := false }
  | atomic p => p.reach groupReach inside
  | same groups inner _ level =>
    if inner then if level.isSome then .unknown else .nothing
    else
      match groups.map (groupReach inside) with
      | [] => .nothing
      | r :: rs => rs.foldl .merge r
  | call i => groupReach inside i

/-- The lengths of a group, following so many references. -/
def groupReach (whole : Pattern Nat) : (steps : Nat) → (inside : List Nat) → Nat → Reach
  | 0, _, _ => .unknown
  | steps + 1, inside, i =>
    match whole.body? i with
    | none => .unknown
    | some p =>
      if inside.contains i then .unknown
      else { p.reach (whole.groupReach steps) (i :: inside) with sure := false }

end Pattern

end ScopeLexer.Regex
