import ScopeLexer.Scan.Chunk
import ScopeLexer.Scan.Run
import ScopeLexer.Scope.Forest

/-! The parts of a match. A group with a target takes part as far as it lies inside the match: its
text becomes a scope, or the scopes that another language finds in it. -/

namespace ScopeLexer

open ScopeLexer.Language Regex

/-- The text that two spans share, unless that is empty. -/
def Regex.Span.overlap? {n : Nat} (s t : Span n) : Option (Span n) :=
  if h : max s.start t.start < min s.stop t.stop then
    some ⟨max s.start t.start, min s.stop t.stop, Nat.le_of_lt h, by have := s.stop_le; omega⟩
  else none

/-- The parts of a match with their targets, in the order of their groups. -/
def Language.Lexer.parts {n origin : Nat} (l : Lexer) (m : Match n origin) :
    List (Span n × Target) :=
  (l.targets.zipIdx.drop 1).filterMap fun (target, i) => do
    return (← m.span.overlap? (← m.group? i), ← target)

namespace Scan

/-- Runs the language of some name over a text; `count` matches were counted before. -/
abbrev Embed := (language : String) → Text → Cache → (count : Nat) → Run Chunk

/-- The scopes of one part, counted from the character at `start`. -/
def partScopes (embed : Embed) (text : Text) (start : Nat) (part : Span text.size)
    (target : Target) (cache : Cache) (count : Nat) : Run Scope :=
  let offset := text.width start part.start
  match target with
  | .scope name => .done [.leaf name offset (text.width part.start part.stop)] cache
  | .language name =>
    (embed name (text.extract part.start part.stop) cache count).mapItems fun chunks =>
      (Chunk.scopesFrom 0 chunks).map (Scope.shift offset)

/-- The scopes of all parts, one after the other. -/
def allScopes (embed : Embed) (text : Text) (start : Nat) :
    List (Span text.size × Target) → Cache → (count : Nat) → Run Scope
  | [], cache, _ => .done [] cache
  | (part, target) :: parts, cache, count =>
    (partScopes embed text start part target cache count).andThen fun cache spent =>
      allScopes embed text start parts cache (count + spent)

end Scan

end ScopeLexer
