import ScopeLexer.Language.Captures
import ScopeLexer.Text.Record
import ScopeLexer.Unicode.Case

/-! Definitions of languages. A language has an id, a name for display, other names that it answers
to, and rules, of which the first one that matches at a place applies. Ids are told apart in
lowercase. -/

namespace ScopeLexer.Language

/-- A pattern and the targets of its groups. -/
structure Rule where
  pattern : String
  captures : Captures
  deriving DecidableEq

/-- The names that a language answers to besides its id: some names in any ASCII case, or whatever a
predicate accepts. -/
inductive Aliases
  | names (ns : List String)
  | predicate (accepts : String → Bool)

def Aliases.accepts : Aliases → String → Bool
  | names ns, name => ns.any (Unicode.eqIgnoringAsciiCase · name)
  | predicate accepts, name => accepts name

structure Definition where
  id : String
  name : String
  aliases : Aliases
  rules : List Rule

/-- What ids are compared by. -/
def keyOf (id : String) : String := Unicode.lowercase id

namespace Definition

def empty (id name : String) : Definition := ⟨id, name, .names [], []⟩

def key (d : Definition) : String := keyOf d.id

/-- Adds a name; a predicate gives way to it. -/
def addAlias (d : Definition) (name : String) : Definition :=
  match d.aliases with
  | .names ns => { d with aliases := .names (ns ++ [name]) }
  | .predicate _ => { d with aliases := .names [name] }

/-- Answers to whatever a predicate accepts, and to no other names. -/
def usePredicate (d : Definition) (accepts : String → Bool) : Definition :=
  { d with aliases := .predicate accepts }

def addRule (d : Definition) (r : Rule) : Definition := { d with rules := d.rules ++ [r] }

def answersTo (d : Definition) (name : String) : Bool := d.aliases.accepts name

end Definition

/-! ### Written out in full -/

def Target.written : Target → String
  | scope name => Text.applied "Scope" (Text.quoted name)
  | language name => Text.record "Language" [("language", Text.quoted name)]

def Captures.written (c : Captures) : String :=
  Text.mapping (c.entries.map fun (i, t) => (toString i, t.written))

def Rule.written (r : Rule) : String :=
  Text.record "Rule" [("pattern", Text.quoted r.pattern), ("captures", r.captures.written)]

def Aliases.written : Aliases → String
  | names ns => Text.applied "Names" (Text.bracketedList (ns.map Text.quoted))
  | predicate _ => Text.applied "Predicate" ".."

def Definition.written (d : Definition) : String :=
  Text.record "GrammarDefinition"
    [("id", Text.quoted d.id), ("name", Text.quoted d.name), ("aliases", d.aliases.written),
      ("rules", Text.bracketedList (d.rules.map Rule.written))]

end ScopeLexer.Language
