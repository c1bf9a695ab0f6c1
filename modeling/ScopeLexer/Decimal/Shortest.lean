/-! Shortest decimals. A positive floating-point number stands for all reals that round to it; its
shortest decimal has the fewest digits of those, and is the nearest of them with that many digits.
-/

namespace ScopeLexer.Decimal

/-- The number `mid` and the bounds of the reals that round to it, in units of `2 ^ exponent`; the
bounds belong to them if `closed`. -/
structure Rounding where
  low : Nat
  mid : Nat
  high : Nat
  exponent : Int
  closed : Bool
  deriving Repr

/-- The reals that round to the positive double with these bits. -/
def Rounding.ofBits (bits : Nat) : Rounding :=
  let fraction := bits % Nat.pow 2 52
  let scale := bits / Nat.pow 2 52 % Nat.pow 2 11
  let m := if scale = 0 then fraction else fraction + Nat.pow 2 52
  { low := if fraction = 0 ∧ 1 < scale then 4 * m - 1 else 4 * m - 2
    mid := 4 * m
    high := 4 * m + 2
    exponent := (max scale 1 : Nat) - 1077
    closed := m % 2 = 0 }

/-- A decimal `digits * 10 ^ exponent`. -/
structure Scientific where
  digits : Nat
  exponent : Int
  deriving DecidableEq, Repr

namespace Rounding

/-- Factors that bring units of `2 ^ exponent` and of `10 ^ k` to one scale. -/
def scales (r : Rounding) (k : Int) : Nat × Nat :=
  (Nat.pow 2 r.exponent.toNat * Nat.pow 10 (-k).toNat,
    Nat.pow 2 (-r.exponent).toNat * Nat.pow 10 k.toNat)

/-- `d * 10 ^ k` rounds to the number. -/
def admits (r : Rounding) (k : Int) (d : Nat) : Bool :=
  let (p, q) := r.scales k
  if r.closed then r.low * p ≤ d * q && d * q ≤ r.high * p
  else r.low * p < d * q && d * q < r.high * p

/-- The position of the first digit: the number lies below `10 ^ n` for the least such `n`. -/
def magnitude (r : Rounding) : Int :=
  let (p, q) := r.scales (-400)
  (Nat.toDigits 10 (r.mid * p / q)).length - 400

/-- The admitted decimal nearest to the number with its last digit at `10 ^ k`. -/
def nearest? (r : Rounding) (k : Int) : Option Nat :=
  let (p, q) := r.scales k
  let below := r.mid * p / q
  match r.admits k below, r.admits k (below + 1) with
  | true, true =>
    let down := r.mid * p - below * q
    let up := (below + 1) * q - r.mid * p
    some (if down < up ∨ (down = up ∧ below % 2 = 0) then below else below + 1)
  | true, false => some below
  | false, true => some (below + 1)
  | false, false => none

/-- Drops zeros at the end, at most `fuel` of them. -/
def trim : (fuel : Nat) → Scientific → Scientific
  | 0, d => d
  | fuel + 1, d =>
    if d.digits % 10 = 0 ∧ d.digits ≠ 0 then trim fuel ⟨d.digits / 10, d.exponent + 1⟩ else d

def shortest (r : Rounding) : Scientific :=
  match (List.range' 1 17).findSome? fun (count : Nat) =>
    (r.nearest? (r.magnitude - count)).map (Scientific.mk · (r.magnitude - count)) with
  | some d => trim 17 d
  | none => ⟨0, 0⟩

end Rounding

end ScopeLexer.Decimal
