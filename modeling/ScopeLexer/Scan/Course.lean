import ScopeLexer.Cache
import ScopeLexer.Scan.Chunk

/-! The course of a scan: what a lexer finds in a text, search after search. It depends on the
lexer and the text alone. A search starts where the last match ended, or one character after a
match that is empty. A match that keeps an early start may end where its search started; the next
search is then the same again, and the course has no end. -/

namespace ScopeLexer

open ScopeLexer.Language Regex

/-- The course through a text of `n` characters: it finishes, passes an empty match, takes a match,
or takes the same match again and again. Everything before `cursor` is done with; what lies between
it and the next match, or the end of the text, is a gap. -/
inductive Course (n : Nat)
  | finish (cursor : Nat)
  | pass {origin : Nat} (m : Match n origin) (rest : Course n)
  | take (cursor : Nat) {origin : Nat} (m : Match n origin) (rest : Course n)
  | again (cursor : Nat) {origin : Nat} (m : Match n origin)

namespace Language.Lexer

/-- The course from a search at `origin` on. -/
def courseFrom (l : Lexer) (text : Text) (cursor origin : Nat) : Course text.size :=
  match l.regex.search text origin with
  | none => .finish cursor
  | some m =>
    if m.span.start = m.span.stop then
      if m.span.stop < text.size then .pass m (courseFrom l text cursor (m.span.stop + 1))
      else .pass m (.finish cursor)
    else if origin < m.span.stop then .take cursor m (courseFrom l text m.span.stop m.span.stop)
    else .again cursor m
termination_by text.size + 1 - origin
decreasing_by
  · have := m.origin_le_stop
    omega
  · have := m.span.stop_le
    omega

def course (l : Lexer) (text : Text) : Course text.size := l.courseFrom text 0 0

end Language.Lexer

end ScopeLexer
