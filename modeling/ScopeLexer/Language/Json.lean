import ScopeLexer.Error
import ScopeLexer.Json.Document
import ScopeLexer.Language.Definition
import ScopeLexer.Outcome

/-! Definitions written in JSON. Definitions and rules are objects whose fields come in any order,
or lists of their fields in a fixed order; fields of other names are passed over. Aliases and
captures may be left out. A document is read in its order, and the first fault counts. -/

namespace ScopeLexer.Language

open Json

/-! ### Fields -/

/-- A field occurs once at most. -/
def single {α : Type} (name : String) (field : Option α) : Except Fault Unit :=
  ensure (field.isNone) (.duplicateField name)

def required {α : Type} (name : String) : Option α → Except Fault α
  | some a => .ok a
  | none => .error (.missingField name)

/-- The item of a list that is `items` from here on, and the items after it. -/
def readItem {α : Type} (read : Document → Except Fault α) (ending : Ending) :
    List Document → Except Fault (Option α × List Document)
  | d :: ds => do return (some (← read d), ds)
  | [] => do
    check ending.listFault?
    return (none, [])

/-- An item without which a list of `length` items is too short. -/
def needed {α : Type} (length : Nat) (expected : String) : Option α → Except Fault α
  | some a => .ok a
  | none => .error (.wrongLength length expected)

/-- No items may follow. -/
def checkEnd (items : List Document) (ending : Ending) : Except Fault Unit :=
  check (if items.isEmpty then ending.surplusFault? else some .trailingCharacters)

/-! ### Captures -/

/-- How deep the value of a capture may nest. -/
def captureNesting : Nat := Document.nesting - 4

/-- A capture is a text, or an object whose one field `language` is a text. -/
def readTarget (d : Document) : Except Fault Target := do
  match ← d.value captureNesting with
  | .string name => .ok (.scope name)
  | .object fields =>
    match fields.filter (·.1 = "language") with
    | [(_, .string name)] => .ok (.language name)
    | _ => .error (.noVariant "Capture")
  | _ => .error (.noVariant "Capture")

/-- A group number; it fits into 64 bits. -/
def groupNumber : Number → Except Fault Nat
  | .unsigned n => .ok n
  | .negative n => .error (.wrongValue (Number.negative n).found "usize")
  | .floating x => .error (.wrongType (Number.floating x).found "usize")

def readCapture (field : Raw × Document) : Except Fault (Nat × Target) := do
  let i ← field.1.number groupNumber
  return (i, ← readTarget field.2)

def readCaptures : Document → Except Fault Captures
  | .object fields ending => do
    let entries ← fields.mapM readCapture
    check ending.objectFault?
    return .ofList entries
  | d => .error (d.mismatch "a map")

/-! ### Rules -/

/-- What is known of a rule. -/
structure RuleDraft where
  pattern : Option String := none
  captures : Option Captures := none

def RuleDraft.readField (r : RuleDraft) (field : Raw × Document) : Except Fault RuleDraft := do
  match ← field.1.text with
  | "pattern" =>
    single "pattern" r.pattern
    return { r with pattern := some (← field.2.readString) }
  | "captures" =>
    single "captures" r.captures
    return { r with captures := some (← readCaptures field.2) }
  | _ =>
    field.2.skim
    return r

def readRule : Document → Except Fault Rule
  | .object fields ending => do
    let r ← fields.foldlM RuleDraft.readField {}
    check ending.objectFault?
    return ⟨← required "pattern" r.pattern, r.captures.getD .empty⟩
  | .list items ending => do
    let (pattern, items) ← readItem Document.readString ending items
    let pattern ← needed 0 "struct Rule with 2 elements" pattern
    let (captures, items) ← readItem readCaptures ending items
    checkEnd items ending
    return ⟨pattern, captures.getD .empty⟩
  | d => .error (d.mismatch "struct Rule")

/-! ### Definitions -/

/-- What is known of a definition. -/
structure Draft where
  id : Option String := none
  name : Option String := none
  aliases : Option (List String) := none
  rules : Option (List Rule) := none

def readAliases : Document → Except Fault (List String) := Document.readList Document.readString

def readRules : Document → Except Fault (List Rule) := Document.readList readRule

def Draft.readField (d : Draft) (field : Raw × Document) : Except Fault Draft := do
  match ← field.1.text with
  | "id" =>
    single "id" d.id
    return { d with id := some (← field.2.readString) }
  | "name" =>
    single "name" d.name
    return { d with name := some (← field.2.readString) }
  | "aliases" =>
    single "aliases" d.aliases
    return { d with aliases := some (← readAliases field.2) }
  | "rules" =>
    single "rules" d.rules
    return { d with rules := some (← readRules field.2) }
  | _ =>
    field.2.skim
    return d

def readDefinition : Document → Except Fault Definition
  | .object fields ending => do
    let d ← fields.foldlM Draft.readField {}
    check ending.objectFault?
    let id ← required "id" d.id
    let name ← required "name" d.name
    let rules ← required "rules" d.rules
    return ⟨id, name, .names (d.aliases.getD []), rules⟩
  | .list items ending => do
    let expected := "struct GrammarDefinition with 4 elements"
    let (id, items) ← readItem Document.readString ending items
    let id ← needed 0 expected id
    let (name, items) ← readItem Document.readString ending items
    let name ← needed 1 expected name
    let (aliases, items) ← readItem readAliases ending items
    let (rules, items) ← readItem readRules ending items
    let rules ← needed 3 expected rules
    checkEnd items ending
    return ⟨id, name, .names (aliases.getD []), rules⟩
  | d => .error (d.mismatch "struct GrammarDefinition")

/-- Reads a text that holds one definition and nothing else. -/
def parseDefinition (s : Bytes) : Except Fault Definition := do
  let (d, more) := Document.ofText s
  let definition ← readDefinition d
  ensure (!more) .trailingCharacters
  return definition

namespace Definition

def ofJson (s : Bytes) : Except Error Definition := (parseDefinition s).mapError .badJson

/-- Reads what a file holds, or says why it cannot be read. A directory fails as JSON: it is opened
before anything is read. -/
def ofFile : Except FileFault Bytes → Except Error Definition
  | .ok s => ofJson s
  | .error .directory => .error (.badJson (.unread FileFault.directory.message))
  | .error f => .error (.unreadable f)

end Definition

end ScopeLexer.Language
