import ScopeLexer.Regex.Pattern

/-! Loops around patterns. A loop whose body is a loop is joined with it where one loop can stand
for both. -/

namespace ScopeLexer.Regex

/-- Bounds that have a sign of their own: a question mark, a star or a plus. -/
inductive LoopSign
  | optional
  | star
  | plus
  deriving DecidableEq, Repr

def LoopSign.of? : (least : Nat) → (most : Option Nat) → Option LoopSign
  | 0, some 1 => some optional
  | 0, none => some star
  | 1, none => some plus
  | _, _ => none

/-- What becomes of a loop around a loop. -/
inductive Joined
  | both
  | inner
  | star (greedy : Bool)
  | lazyOptional
  | lazyOptionalPlus
  deriving DecidableEq, Repr

/-- Joins two loops by their signs, each with whether it is greedy. -/
def LoopSign.join : (inner outer : LoopSign × Bool) → Joined
  | (optional, true), (optional, true) => .inner
  | (optional, true), (optional, false) => .lazyOptional
  | (optional, true), (plus, false) => .both
  | (optional, true), (_, greedy) => .star greedy
  | (star, true), (plus, _) => .inner
  | (star, true), (_, true) => .inner
  | (star, true), (_, false) => .lazyOptionalPlus
  | (plus, true), (plus, _) => .inner
  | (plus, true), (_, true) => .star true
  | (plus, true), (optional, false) => .both
  | (plus, true), (star, false) => .lazyOptionalPlus
  | (optional, false), (optional, _) => .inner
  | (optional, false), _ => .star false
  | (star, false), _ => .inner
  | (plus, false), (plus, _) => .inner
  | (plus, false), (optional, true) => .both
  | (plus, false), (star, true) => .star true
  | (plus, false), _ => .star false

/-- The upper bound of a greedy loop around one with this sign. A star or a plus that is greedy
takes in one turn what further turns would take. -/
def LoopSign.narrowed (inner : Option (LoopSign × Bool)) (least : Nat) (most : Option Nat)
    (greedy : Bool) : Option Nat :=
  match inner, most with
  | some (star, true), some high | some (plus, true), some high =>
    if greedy ∧ 1 < high then some (max 1 least) else some high
  | _, _ => most

/-- The greatest product of two counts. -/
def countLimit : Nat := 0x7FFFFFFF

namespace Pattern

variable {ρ : Type}

/-- A loop around `p`. A fixed count of a fixed count is their product. -/
def looped (p : Pattern ρ) (least : Nat) (most : Option Nat) (greedy : Bool) :
    Except Fault (Pattern ρ) :=
  match p with
  | loop q low high g =>
    let inner := (LoopSign.of? low high).map (·, g)
    let most := LoopSign.narrowed inner least most greedy
    match inner, LoopSign.of? least most with
    | some s, some t =>
      .ok <| match LoopSign.join s (t, greedy) with
        | .both => loop p least most greedy
        | .inner => p
        | .star greedy => loop q 0 none greedy
        | .lazyOptional => loop q 0 (some 1) false
        | .lazyOptionalPlus => loop (loop q 1 none true) 0 (some 1) false
    | _, _ =>
      if high ≠ some low ∨ most ≠ some least then .ok (loop p least most greedy)
      else if low = 0 ∨ least < countLimit / low then
        .ok (loop q (least * low) (some (least * low)) greedy)
      else .error .repeatTooLarge
  | _ => .ok (loop p least most greedy)

end Pattern

end ScopeLexer.Regex
