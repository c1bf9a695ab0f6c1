import ScopeLexer.Scope.Walk

/-! Flat tokens of a forest. The text is cut at every end of a scope, and each piece carries the
names of the scopes that cover it; of overlapping siblings the last one counts. -/

namespace ScopeLexer

/-- A piece of text and the names of the scopes that cover it, outermost first. -/
structure Token where
  start : Nat
  stop : Nat
  scopes : List String
  deriving DecidableEq, Repr

namespace Scope

mutual

/-- The names of the scopes that satisfy `covers`, going down through the last one of each level. -/
def descend (covers : Scope → Bool) : List Scope → List String
  | [] => []
  | s :: ss =>
    if ss.any covers then descend covers ss
    else if covers s then descendFrom covers s
    else []

def descendFrom (covers : Scope → Bool) : Scope → List String
  | ⟨name, _, _, children⟩ => name :: descend covers children

end

/-- Each number of a run of equal ones once. -/
def dedup : List Nat → List Nat
  | a :: b :: rest => if a = b then dedup (b :: rest) else a :: dedup (b :: rest)
  | rest => rest

/-- Where tokens begin and end in a text of `length` bytes, in increasing order. -/
def cuts (roots : List Scope) (length : Nat) : List Nat :=
  let ends := (roots.flatMap (·.walk.toList)).flatMap fun (_, s) =>
    [min s.start length, min s.stop length]
  dedup ((0 :: length :: ends).mergeSort (· ≤ ·))

/-- The tokens of a forest over a text of `length` bytes. -/
def flatten (roots : List Scope) (length : Nat) : List Token :=
  (List.zip (cuts roots length) (cuts roots length).tail).map fun (start, stop) =>
    ⟨start, stop, descend (fun s => s.start ≤ start && stop ≤ s.stop) roots⟩

end Scope

end ScopeLexer
