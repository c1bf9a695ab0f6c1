import ScopeLexer.Proofs.Language.Unnumbered
import ScopeLexer.Proofs.Regex.Reading.Moved
import ScopeLexer.Proofs.Regex.Reading.Token

/-! Tokens of a rule inside a larger pattern. Only escapes and conditions refer to groups: by a name,
or by a number that counts from the groups that are there or, in a condition, from the first one. So
a token means the same behind other groups, with all numbers moved, as long as it gives no name that
one of those groups has and no number that counts from the first one. -/

namespace ScopeLexer.Language

open Regex

/-- The name that a back-reference or a condition gives, if one starts here. -/
def writtenName? : Char → List Char → Option WrittenName
  | '\\', 'k' :: s =>
    (Token.nameClose? s).bind fun stop => (referredName stop s.tail).toOption.map (·.1.1)
  | '(', '?' :: '(' :: s => (Token.conditionName s).toOption.map (·.1.1)
  | _, _ => none

/-- A name that means the same group behind groups with the names `before`: it is none of these and
no number that counts from the first group. -/
def Movable (before : List (String × Nat)) : WrittenName → Prop
  | .word w => ∀ i, (w, i) ∉ before
  | .number _ => False
  | _ => True

variable {b : Nat} {before : List (String × Nat)} {u : List Char}

end ScopeLexer.Language
