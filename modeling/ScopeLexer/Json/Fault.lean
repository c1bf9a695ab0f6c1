import ScopeLexer.Text.Quoted

/-! What is wrong with a JSON text: it cannot be read to its end, it breaks off, it is malformed, or
it is well formed and holds something else than is asked for. -/

namespace ScopeLexer.Json

inductive Category
  | unread
  | truncated
  | malformed
  | mismatched
  deriving DecidableEq, Repr

/-- What a text holds where something else is asked for. -/
inductive Found
  | null
  | boolean (b : Bool)
  | integer (n : Int)
  | floating (written : String)
  | string (s : String)
  | sequence
  | map
  deriving DecidableEq, Repr

def Found.text : Found → String
  | null => "null"
  | boolean b => "boolean `" ++ (if b then "true" else "false") ++ "`"
  | integer n => "integer `" ++ toString n ++ "`"
  | floating written => "floating point `" ++ written ++ "`"
  | string s => "string " ++ Text.quoted s
  | sequence => "sequence"
  | map => "map"

inductive Fault
  | unread (cause : String)
  | truncatedList
  | truncatedObject
  | truncatedString
  | truncatedValue
  | expectedColon
  | expectedListComma
  | expectedObjectComma
  | expectedWord
  | expectedValue
  | expectedQuote
  | badEscape
  | badNumber
  | numberOutOfRange
  | badCodePoint
  | controlCharacter
  | keyNotString
  | keyNotNumber
  | loneSurrogate
  | cutSurrogate
  | trailingComma
  | trailingCharacters
  | tooDeep
  | wrongType (found : Found) (expected : String)
  | wrongValue (found : Found) (expected : String)
  | wrongLength (length : Nat) (expected : String)
  | missingField (name : String)
  | duplicateField (name : String)
  | noVariant (name : String)
  deriving DecidableEq, Repr

namespace Fault

def category : Fault → Category
  | unread _ => .unread
  | truncatedList | truncatedObject | truncatedString | truncatedValue => .truncated
  | wrongType .. | wrongValue .. | wrongLength .. | missingField _ | duplicateField _
  | noVariant _ => .mismatched
  | _ => .malformed

def message : Fault → String
  | unread cause => cause
  | truncatedList => "EOF while parsing a list"
  | truncatedObject => "EOF while parsing an object"
  | truncatedString => "EOF while parsing a string"
  | truncatedValue => "EOF while parsing a value"
  | expectedColon => "expected `:`"
  | expectedListComma => "expected `,` or `]`"
  | expectedObjectComma => "expected `,` or `\x7d`"
  | expectedWord => "expected ident"
  | expectedValue => "expected value"
  | expectedQuote => "expected `\"`"
  | badEscape => "invalid escape"
  | badNumber => "invalid number"
  | numberOutOfRange => "number out of range"
  | badCodePoint => "invalid unicode code point"
  | controlCharacter => "control character (\\u0000-\\u001F) found while parsing a string"
  | keyNotString => "key must be a string"
  | keyNotNumber => "invalid value: expected key to be a number in quotes"
  | loneSurrogate => "lone leading surrogate in hex escape"
  | cutSurrogate => "unexpected end of hex escape"
  | trailingComma => "trailing comma"
  | trailingCharacters => "trailing characters"
  | tooDeep => "recursion limit exceeded"
  | wrongType found expected => "invalid type: " ++ found.text ++ ", expected " ++ expected
  | wrongValue found expected => "invalid value: " ++ found.text ++ ", expected " ++ expected
  | wrongLength length expected =>
    "invalid length " ++ toString length ++ ", expected " ++ expected
  | missingField name => "missing field `" ++ name ++ "`"
  | duplicateField name => "duplicate field `" ++ name ++ "`"
  | noVariant name => "data did not match any variant of untagged enum " ++ name

end Fault

end ScopeLexer.Json
