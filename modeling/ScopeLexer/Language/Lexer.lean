import ScopeLexer.Error
import ScopeLexer.Language.Definition
import ScopeLexer.Outcome
import ScopeLexer.Regex.Engine

/-! Lexers. The rules of a language are joined into one pattern with an alternative for each rule,
in order, and a table says what becomes of each of its groups. A rule is checked alone and in the
form in which it is joined; a definition that passes all checks gives a lexer. -/

namespace ScopeLexer.Language

open Regex

/-! ### Patterns of rules -/

/-- A rule's pattern as an alternative: one group, in which blanks and case count. -/
def wrapped (pattern : String) : String := "(?-ix:(" ++ pattern ++ "))"

/-- What follows a backslash refers to a group by its number. -/
def isNumberedReference : List Char → Bool
  | c :: d :: e :: _ =>
    ('1' ≤ c && c ≤ '9') || ((c = 'k' || c = 'g') && (d = '<' || d = '\x27') && e.isDigit)
  | c :: _ => '1' ≤ c && c ≤ '9'
  | [] => false

/-- Some backslash, itself not escaped, starts a reference to a group by its number. -/
def hasNumberedReference : List Char → Bool
  | '\\' :: c :: rest => isNumberedReference (c :: rest) || hasNumberedReference rest
  | _ :: rest => hasNumberedReference rest
  | [] => false

/-! ### Rules -/

variable [Engine]

/-- Checks a rule, the one numbered `index`, and counts its groups. -/
def Rule.groupCount (r : Rule) (grammar : String) (index : Nat) : Except Error Nat := do
  let malformed := Error.malformedRegex grammar (some index)
  let alone ← (Engine.compile false r.pattern).mapError (malformed ∘ .refused)
  ensure (!hasNumberedReference r.pattern.toList)
    (.invalidGrammar grammar (.numberedReference index))
  let largest := r.captures.largest?.getD 0
  ensure (largest ≤ alone.groups)
    (.invalidGrammar grammar (.missingGroup index largest alone.groups))
  let joined ← (Engine.compile true (wrapped r.pattern)).mapError (malformed ∘ .refused)
  ensure (joined.groups = alone.groups + 1) (malformed (.leaking joined.groups (alone.groups + 1)))
  return alone.groups

/-- Checks rules in order, the first one numbered `index`, and counts their groups. -/
def groupCounts (grammar : String) : (index : Nat) → List Rule → Except Error (List Nat)
  | _, [] => .ok []
  | index, r :: rs => do
    let n ← r.groupCount grammar index
    return n :: (← groupCounts grammar (index + 1) rs)

/-- The targets of a rule with `groups` groups, the whole match first. -/
def Rule.targets (r : Rule) (groups : Nat) : List (Option Target) :=
  (List.range (groups + 1)).map r.captures.get?

/-! ### Lexers -/

/-- A language ready to run. Each group of the joined pattern has an entry in `targets`; the first
entry is that of the whole match and empty. -/
structure Lexer where
  id : String
  name : String
  pattern : String
  regex : Expression
  targets : List (Option Target)

namespace Lexer

def joined (rules : List Rule) : String := "|".intercalate (rules.map (wrapped ·.pattern))

/-- The table of rules with as many groups as counted. -/
def table (rules : List Rule) (counts : List Nat) : List (Option Target) :=
  none :: (List.zipWith Rule.targets rules counts).flatten

/-- The lexer of a definition, or the first fault in it. -/
def compile (d : Definition) : Except Error Lexer := do
  ensure (!Unicode.isBlankText d.id) (.invalidGrammar d.id .blankId)
  ensure (!Unicode.isBlankText d.name) (.invalidGrammar d.id .blankName)
  ensure (d.rules ≠ []) (.invalidGrammar d.id .noRules)
  let counts ← groupCounts d.id 0 d.rules
  let pattern := joined d.rules
  let malformed := Error.malformedRegex d.id none
  let regex ← (Engine.compile true pattern).mapError (malformed ∘ .refused)
  let targets := table d.rules counts
  ensure (regex.groups + 1 = targets.length)
    (malformed (.miscounted regex.groups (targets.length - 1)))
  return ⟨d.id, d.name, pattern, regex, targets⟩

def written (l : Lexer) : String :=
  Text.record "CompiledGrammar"
    [("id", Text.quoted l.id), ("pattern", Text.quoted l.pattern),
      ("captures", toString l.targets.length)]

end Lexer

end ScopeLexer.Language
