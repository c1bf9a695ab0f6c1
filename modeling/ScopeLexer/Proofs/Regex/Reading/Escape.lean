import ScopeLexer.Regex.Escape

/-! Escapes in front of a closing parenthesis. What a reader takes from a text that is complete in
itself is the same if a closing parenthesis and more text follow: no reader of escapes looks past
what it takes, and a parenthesis is none of the characters that would go on. -/

namespace ScopeLexer.Regex

variable {u : List Char}

theorem takeWhile_append {p : Char → Bool} (hp : p ')' = false) (s : List Char) :
    (s ++ ')' :: u).takeWhile p = s.takeWhile p := by
  induction s with
  | nil => simp [hp]
  | cons c s ih => rw [List.cons_append, List.takeWhile_cons, List.takeWhile_cons, ih]

end ScopeLexer.Regex
