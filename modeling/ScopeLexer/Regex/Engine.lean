import ScopeLexer.Regex.Fault

/-! Engines. Of an engine for regular expressions nothing is known but that it builds an expression
from the text of a pattern, or refuses it, that an expression counts its groups, and that a search
reports ranges that lie in the text. -/

namespace ScopeLexer.Regex

abbrev Text := Array Char

/-- A range of positions in a text of `n` characters. -/
structure Span (n : Nat) where
  start : Nat
  stop : Nat
  start_le_stop : start ≤ stop
  stop_le : stop ≤ n
  deriving DecidableEq, Repr

def Span.of? (n start stop : Nat) : Option (Span n) :=
  if h : start ≤ stop ∧ stop ≤ n then some ⟨start, stop, h.1, h.2⟩ else none

/-- The range of a match in a search from `origin` on, and the ranges of its groups by their
numbers. A match may start before the origin, but it does not end before it. -/
structure Match (n origin : Nat) where
  span : Span n
  groups : Array (Option (Span n))
  origin_le_stop : origin ≤ span.stop

def Match.group? {n origin : Nat} (m : Match n origin) (i : Nat) : Option (Span n) :=
  m.groups[i]?.join

/-- What can search: its groups are numbered from one to `groups`, and a search from a position on
may find a match. -/
structure Expression where
  groups : Nat
  search : (text : Text) → (origin : Nat) → Option (Match text.size origin)

/-- Builds expressions; `extended` starts with blanks and comments ignored. -/
class Engine where
  compile : (extended : Bool) → String → Except Fault Expression

end ScopeLexer.Regex
