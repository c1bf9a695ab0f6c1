import ScopeLexer.Proofs.Regex.Reading.Bracket
import ScopeLexer.Regex.Token

/-! Names, loops and groups in front of a closing parenthesis. -/

namespace ScopeLexer.Regex

variable {u : List Char}

/-! ### Names -/

namespace Token

end Token

end ScopeLexer.Regex
