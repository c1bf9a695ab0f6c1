import ScopeLexer.Json.Fault
import ScopeLexer.Regex.Fault
import ScopeLexer.Text.Record

/-! What can go wrong when languages are read, looked up, prepared and run. Each error has a message
and a form written out in full. -/

namespace ScopeLexer

/-- Why a file cannot be read. A directory opens like a file, and only reading it fails. -/
inductive FileFault
  | missing
  | directory
  | other (text : String)
  deriving DecidableEq, Repr

def FileFault.message : FileFault → String
  | missing => "No such file or directory (os error 2)"
  | directory => "Is a directory (os error 21)"
  | other text => text

/-- What a definition lacks or asks for in vain. Rules are counted from zero. -/
inductive Defect
  | blankId
  | blankName
  | noRules
  | numberedReference (rule : Nat)
  | missingGroup (rule group groups : Nat)
  | other (reason : String)
  deriving DecidableEq, Repr

def Defect.message : Defect → String
  | blankId => "the grammar id is empty"
  | blankName => "the grammar name is empty"
  | noRules => "the grammar has no rules"
  | numberedReference rule => "rule #" ++ toString rule ++ " uses numbered back-references"
  | missingGroup rule group groups =>
    "rule #" ++ toString rule ++ " maps capture " ++ toString group ++ " but only has "
      ++ toString groups ++ " groups"
  | other reason => reason

/-- What is wrong with a pattern: it is refused, its groups change once it stands in a larger
pattern, or joined patterns have other groups than their parts. -/
inductive Malformation
  | refused (f : Regex.Fault)
  | leaking (groups expected : Nat)
  | miscounted (groups expected : Nat)
  | other (reason : String)
  deriving DecidableEq, Repr

def Malformation.message : Malformation → String
  | refused f => f.report
  | leaking groups expected =>
    "pattern leaks out of its group once wrapped (" ++ toString groups ++ " groups instead of "
      ++ toString expected ++ ")"
  | miscounted groups expected =>
    "composite has " ++ toString groups ++ " groups but the rules declare " ++ toString expected
  | other reason => reason

/-- A malformed pattern is that of a rule, or the one joined from all rules. A stalled scan meets
the same match again and again. -/
inductive Error
  | unreadable (f : FileFault)
  | badJson (f : Json.Fault)
  | invalidGrammar (grammar : String) (defect : Defect)
  | malformedRegex (grammar : String) (rule : Option Nat) (cause : Malformation)
  | languageNotFound (name : String)
  | nestingTooDeep (limit : Nat)
  | matchLimitExceeded (limit : Nat)
  | stalled
  deriving DecidableEq, Repr

namespace Error

def message : Error → String
  | unreadable f => "I/O error: " ++ f.message
  | badJson f => "JSON parsing error: " ++ f.message
  | invalidGrammar grammar defect => "invalid grammar '" ++ grammar ++ "': " ++ defect.message
  | malformedRegex grammar (some rule) cause =>
    "malformed regex in rule #" ++ toString rule ++ " of grammar '" ++ grammar ++ "': "
      ++ cause.message
  | malformedRegex grammar none cause =>
    "composite regex of grammar '" ++ grammar ++ "' failed to compile: " ++ cause.message
  | languageNotFound name => "language '" ++ name ++ "' not found"
  | nestingTooDeep limit =>
    "embedded languages nested deeper than " ++ toString limit ++ " levels"
  | matchLimitExceeded limit => "parse exceeded the limit of " ++ toString limit ++ " matches"
  | stalled => "the same text is matched again and again"

/-- Faults of files and of their JSON are causes of their own. -/
def hasSource : Error → Bool
  | unreadable _ | badJson _ => true
  | _ => false

/-- An error in full, faults of files and of their JSON by their kind only. -/
def written : Error → String
  | unreadable _ => "Io"
  | badJson _ => "Json"
  | invalidGrammar grammar defect =>
    Text.record "InvalidGrammar"
      [("grammar", Text.quoted grammar), ("reason", Text.quoted defect.message)]
  | malformedRegex grammar rule cause =>
    Text.record "MalformedRegex"
      [("grammar", Text.quoted grammar), ("rule", Text.optional (rule.map toString)),
        ("message", Text.quoted cause.message)]
  | languageNotFound name => Text.applied "LanguageNotFound" (Text.quoted name)
  | nestingTooDeep limit => Text.record "NestingTooDeep" [("limit", toString limit)]
  | matchLimitExceeded limit => Text.record "MatchLimitExceeded" [("limit", toString limit)]
  | stalled => "Stalled"

end Error

end ScopeLexer
