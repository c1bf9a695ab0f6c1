import ScopeLexer.Json.Token

/-! JSON documents, well formed or not. A document is the tree of its tokens as far as they make
sense; where a value cannot be read there is a broken node, and a list or object that does not go on
as it should says how it ends. What of this matters depends on how the document is read: values that
are passed over are held to a laxer standard, with faults of their own. -/

namespace ScopeLexer.Json

/-- Why no value can be read where one should stand. -/
inductive Break
  | missing
  | stray
  | word (truncated : Bool)
  | number (f : NumberFault)
  | noColon
  | noField
  deriving DecidableEq, Repr

/-- How a list or an object ends. -/
inductive Ending
  | closed
  | truncated
  | noComma
  | comma
  | truncatedAfterComma
  | notKey
  deriving DecidableEq, Repr

inductive Document
  | null
  | boolean (b : Bool)
  | number (n : Numeral)
  | string (r : Raw)
  | list (items : List Document) (ending : Ending)
  | object (fields : List (Raw × Document)) (ending : Ending)
  | broken (b : Break)

namespace Document

/-! ### From tokens -/

/-- A list or an object that is still open, its parts last first; an object waits for the value of
its last key. -/
inductive Open
  | list (items : List Document)
  | object (fields : List (Raw × Document)) (key : Raw)

def Open.close (d : Document) (e : Ending) : Open → Document
  | list items => .list (d :: items).reverse e
  | object fields key => .object ((key, d) :: fields).reverse e

/-- Closes everything that is open around a document. -/
def unwind (d : Document) (stack : List Open) : Document :=
  stack.foldl (fun d o => o.close d .truncated) d

/-- What is asked for next: a value, the first item or key of a list or object, the next one after a
comma, a colon, or what follows a complete value. -/
inductive Step
  | value
  | firstItem
  | nextItem (items : List Document)
  | firstKey
  | nextKey (fields : List (Raw × Document))
  | colon (fields : List (Raw × Document)) (key : Raw)
  | after (d : Document)

/-- What a token is or opens as a value. -/
def startValue : Token → Document ⊕ Step
  | .listOpen => .inr .firstItem
  | .objectOpen => .inr .firstKey
  | .null => .inl .null
  | .boolean b => .inl (.boolean b)
  | .number n => .inl (.number n)
  | .string r => .inl (.string r)
  | .badWord truncated => .inl (.broken (.word truncated))
  | .badNumber f => .inl (.broken (.number f))
  | _ => .inl (.broken .stray)

def isBroken : Document → Bool
  | broken _ => true
  | _ => false

/-- Reads on with `stack` open; also tells whether tokens are left after the whole document. -/
def build (stack : List Open) : Step → List Token → Document × Bool
  | .value, [] => (unwind (.broken .missing) stack, false)
  | .value, t :: ts =>
    match startValue t with
    | .inl d => if d.isBroken then (unwind d stack, false) else build stack (.after d) ts
    | .inr step => build stack step ts
  | .firstItem, [] => (unwind (.list [] .truncated) stack, false)
  | .firstItem, .listClose :: ts => build stack (.after (.list [] .closed)) ts
  | .firstItem, t :: ts =>
    match startValue t with
    | .inl d =>
      if d.isBroken then (unwind d (.list [] :: stack), false)
      else build (.list [] :: stack) (.after d) ts
    | .inr step => build (.list [] :: stack) step ts
  | .nextItem items, [] => (unwind (.list items.reverse .truncatedAfterComma) stack, false)
  | .nextItem items, .listClose :: _ => (unwind (.list items.reverse .comma) stack, false)
  | .nextItem items, t :: ts =>
    match startValue t with
    | .inl d =>
      if d.isBroken then (unwind d (.list items :: stack), false)
      else build (.list items :: stack) (.after d) ts
    | .inr step => build (.list items :: stack) step ts
  | .firstKey, [] => (unwind (.object [] .truncated) stack, false)
  | .firstKey, .objectClose :: ts => build stack (.after (.object [] .closed)) ts
  | .firstKey, .string key :: ts => build stack (.colon [] key) ts
  | .firstKey, _ => (unwind (.object [] .notKey) stack, false)
  | .nextKey fields, [] => (unwind (.object fields.reverse .truncatedAfterComma) stack, false)
  | .nextKey fields, .objectClose :: _ => (unwind (.object fields.reverse .comma) stack, false)
  | .nextKey fields, .string key :: ts => build stack (.colon fields key) ts
  | .nextKey fields, _ => (unwind (.object fields.reverse .notKey) stack, false)
  | .colon fields key, .colon :: ts => build (.object fields key :: stack) .value ts
  | .colon fields key, [] => (unwind (.broken .noField) (.object fields key :: stack), false)
  | .colon fields key, _ => (unwind (.broken .noColon) (.object fields key :: stack), false)
  | .after d, ts =>
    match stack, ts with
    | [], ts => (d, !ts.isEmpty)
    | o :: stack, [] => (unwind (o.close d .truncated) stack, false)
    | .list items :: stack, .comma :: ts => build stack (.nextItem (d :: items)) ts
    | .object fields key :: stack, .comma :: ts => build stack (.nextKey ((key, d) :: fields)) ts
    | .list items :: stack, .listClose :: ts =>
      build stack (.after (.list (d :: items).reverse .closed)) ts
    | .object fields key :: stack, .objectClose :: ts =>
      build stack (.after (.object ((key, d) :: fields).reverse .closed)) ts
    | o :: stack, _ => (unwind (o.close d .noComma) stack, false)

/-- The document of a text, and whether something follows it. -/
def ofText (s : Bytes) : Document × Bool := build [] .value (tokens s)

end Document

/-! ### Faults -/

def Break.fault : Break → Fault
  | missing => .truncatedValue
  | stray => .expectedValue
  | word truncated => if truncated then .truncatedValue else .expectedWord
  | number .truncated => .truncatedValue
  | number .malformed => .badNumber
  | noColon => .expectedColon
  | noField => .truncatedObject

/-- A number that is passed over and breaks off is malformed like any other. -/
def Break.skimFault : Break → Fault
  | number _ => .badNumber
  | b => b.fault

namespace Ending

/-- The fault of a list that is read, if it is not closed. -/
def listFault? : Ending → Option Fault
  | closed => none
  | truncated => some .truncatedList
  | comma => some .trailingComma
  | truncatedAfterComma => some .truncatedValue
  | noComma | notKey => some .expectedListComma

def objectFault? : Ending → Option Fault
  | closed => none
  | truncated => some .truncatedObject
  | comma => some .trailingComma
  | truncatedAfterComma => some .truncatedValue
  | noComma => some .expectedObjectComma
  | notKey => some .keyNotString

/-- The fault of a list that is passed over: a comma asks for a value. -/
def listSkimFault? : Ending → Option Fault
  | comma => some .expectedValue
  | e => e.listFault?

/-- The fault of an object that is passed over: a comma asks for a key. -/
def objectSkimFault? : Ending → Option Fault
  | comma => some .keyNotString
  | truncatedAfterComma => some .truncatedObject
  | e => e.objectFault?

/-- The fault of a list that goes on after the items that are asked for. -/
def surplusFault? : Ending → Option Fault
  | closed => none
  | truncated => some .truncatedList
  | comma => some .trailingComma
  | _ => some .trailingCharacters

end Ending

/-- Fails with a fault if there is one. -/
def check : Option Fault → Except Fault Unit
  | some f => .error f
  | none => .ok ()

namespace Document

mutual

/-- Passes over a document. -/
def skim : Document → Except Fault Unit
  | null | boolean _ | number _ => .ok ()
  | string r => r.skim
  | list items e => do
    skimItems items
    check e.listSkimFault?
  | object fields e => do
    skimFields fields
    check e.objectSkimFault?
  | broken b => .error b.skimFault

def skimItems : List Document → Except Fault Unit
  | [] => .ok ()
  | d :: ds => do
    d.skim
    skimItems ds

def skimFields : List (Raw × Document) → Except Fault Unit
  | [] => .ok ()
  | (key, d) :: fields => do
    key.skim
    d.skim
    skimFields fields

end

end Document

/-- A document that has been read. -/
inductive Value
  | null
  | boolean (b : Bool)
  | number (n : Number)
  | string (s : String)
  | list (items : List Value)
  | object (fields : List (String × Value))

namespace Document

mutual

/-- Reads a document of any kind, its lists and objects less than `room` deep. -/
def value (room : Nat) : Document → Except Fault Value
  | null => .ok .null
  | boolean b => .ok (.boolean b)
  | number n => n.value.map .number
  | string r => r.text.map .string
  | list items e =>
    if room ≤ 1 then .error .tooDeep
    else do
      let vs ← values (room - 1) items
      check e.listFault?
      return .list vs
  | object fields e =>
    if room ≤ 1 then .error .tooDeep
    else do
      let vs ← fieldValues (room - 1) fields
      check e.objectFault?
      return .object vs
  | broken b => .error b.fault

def values (room : Nat) : List Document → Except Fault (List Value)
  | [] => .ok []
  | d :: ds => do return (← d.value room) :: (← values room ds)

def fieldValues (room : Nat) : List (Raw × Document) → Except Fault (List (String × Value))
  | [] => .ok []
  | (key, d) :: fields => do
    let name ← key.text
    return (name, ← d.value room) :: (← fieldValues room fields)

end

/-- How deep lists and objects may nest, one less. -/
def nesting : Nat := 128

/-- What a document holds, where it is not what is expected. -/
def mismatch (expected : String) : Document → Fault
  | null => .wrongType .null expected
  | boolean b => .wrongType (.boolean b) expected
  | number n =>
    match n.value with
    | .ok v => .wrongType v.found expected
    | .error f => f
  | string r =>
    match r.text with
    | .ok s => .wrongType (.string s) expected
    | .error f => f
  | list .. => .wrongType .sequence expected
  | object .. => .wrongType .map expected
  | broken b => b.fault

def readString : Document → Except Fault String
  | string r => r.text
  | d => .error (d.mismatch "a string")

/-- Reads a list whose items are all of one kind. -/
def readList {α : Type} (item : Document → Except Fault α) : Document → Except Fault (List α)
  | list items e => do
    let as ← items.mapM item
    check e.listFault?
    return as
  | d => .error (d.mismatch "a sequence")

end Document

/-- Reads any JSON text. -/
def parse (s : Bytes) : Except Fault Value := do
  let (d, more) := Document.ofText s
  let v ← d.value Document.nesting
  if more then throw .trailingCharacters
  return v

end ScopeLexer.Json
