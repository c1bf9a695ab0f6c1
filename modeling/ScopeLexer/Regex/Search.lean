import ScopeLexer.Regex.Parser
import ScopeLexer.Regex.Recursion
import ScopeLexer.Regex.Landmark

/-! Regular expressions, which are an engine. One is built from a pattern text, or refused; it
searches a text from a position on and reports where the match and each group lie. -/

namespace ScopeLexer

/-- A pattern ready to search with; its groups are numbered from one to `groups`. Those that are
called have a body. -/
structure Regex where
  program : Regex.Program
  body? : Nat → Option Regex.Program
  groups : Nat
  landmarks : List Regex.Atom

namespace Regex

/-- Readies a pattern whose groups are numbered up to `count`. -/
def ofPattern (p : Pattern Nat) (count : Nat) : Regex :=
  let x := Context.of p count
  let bodies := (Array.range (count + 1)).map x.body?
  ⟨x.main, fun i => bodies[i]?.join, count, x.main.landmarks⟩

/-- Builds a regular expression; `extended` starts with blanks and comments ignored. -/
def compile (extended : Bool) (s : String) : Except Fault Regex := do
  let (p, g) ← parse ⟨false, false, extended, false⟩ s
  if p.referred.any (g.count < ·) then throw .badReference
  let p ← p.resolve g.resolve
  if p.hasEndlessCall g.count then throw .endlessRecursion
  let (p, _) ← (p.settle g.count [0] p).run []
  return .ofPattern p g.count

/-- How deep calls of groups may nest; a called group that is reached without a call counts. -/
def callDepth : Nat := 20

/-- The first way to match at `i`, in a search that started at `origin`. -/
def matchAt (r : Regex) (text : Text) (origin i : Nat) : Option Thread :=
  r.program.matcher text origin (callMatcher r.body? text origin callDepth)
    (.start i text.size) some

/-- What is reported for the place `i`. A kept start lies at most at the end of the match, and what
ends before the place is no match there. -/
def Thread.toMatch? (t : Thread) (groups n origin i : Nat) : Option (Match n origin) := do
  let span ← Span.of? n (min t.kept t.pos) t.pos
  if h : origin ≤ i ∧ i ≤ span.stop then
    some ⟨span, (Array.range (groups + 1)).map fun g => do
      let (start, stop) ← t.span? g
      Span.of? n start stop, Nat.le_trans h.1 h.2⟩
  else none

/-- The match at the first position from `origin` on at which there is one. -/
def search (r : Regex) (text : Text) (origin : Nat) : Option (Match text.size origin) :=
  (List.range' origin (startCount text r.landmarks - origin)).findSome? fun i =>
    (r.matchAt text origin i).bind (·.toMatch? r.groups text.size origin i)

/-- What can be done with a regular expression. -/
def expression (r : Regex) : Expression := ⟨r.groups, r.search⟩

/-- The engine of these regular expressions. -/
instance engine : Engine := ⟨fun extended s => (compile extended s).map expression⟩

end Regex

end ScopeLexer
