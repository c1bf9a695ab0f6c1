/-! Sets of code points and mappings between them, as tables. A coverage lists run lengths, so
membership is a walk along the table; a mapping lists arithmetic runs with the image of their first
member. Both are in increasing order. -/

namespace ScopeLexer.Unicode

/-- A set of code points as runs: `(skip, take)` leaves out `skip` and takes the next `take`. -/
abbrev Coverage := List (Nat × Nat)

def Coverage.contains : Coverage → Nat → Bool
  | [], _ => false
  | (skip, take) :: rest, n =>
    if n < skip then false
    else if n < skip + take then true
    else contains rest (n - (skip + take))

/-- Runs `(first, last, step, image)`: `first + step * k` goes to `image + step * k`. -/
abbrev Mapping := List (Nat × Nat × Nat × Nat)

def Mapping.image? : Mapping → Nat → Option Nat
  | [], _ => none
  | (first, last, step, image) :: rest, n =>
    if n < first then none
    else if n ≤ last ∧ (n - first) % step = 0 then some (image + (n - first))
    else image? rest n

/-- Every code point that the mapping takes to `n`. -/
def Mapping.preimages (m : Mapping) (n : Nat) : List Nat :=
  m.filterMap fun (first, last, step, image) =>
    if image ≤ n ∧ n - image ≤ last - first ∧ (n - image) % step = 0 then some (first + (n - image))
    else none

end ScopeLexer.Unicode
