/-! Why a pattern is refused. One fault, `unsupported`, is for what has a meaning elsewhere but none
in this library. A message shows a name by its first bytes; where they end inside a character there
is no text to show, and the report says so instead. -/

namespace ScopeLexer.Regex

inductive Fault
  | unclosedGroup
  | unopenedGroup
  | unfinishedGroup
  | unknownOption
  | unclosedClass
  | emptyClass
  | reversedRange
  | classInRange
  | openRange
  | unknownBracket
  | unknownProperty (name : String)
  | nothingToRepeat
  | unrepeatable
  | repeatTooLarge
  | numberTooLarge
  | loneEscape
  | unfinishedControl
  | badControl
  | unfinishedMeta
  | badMeta
  | badCodePoint
  | codePointTooLarge
  | codePointTooLong
  | shortByteSequence
  | emptyName
  | badName (name : String)
  | badNameCharacter (name : String)
  | undefinedName (name : String)
  | undefinedGroup (name : String)
  | sharedName (name : String)
  | badReference
  | badBehind
  | endlessRecursion
  | badCallout
  | badCalloutName
  | unknownCallout
  | unsupported
  deriving DecidableEq, Repr

/-- How many bytes of a name a message shows. -/
def nameRoom : Nat := 27

/-- The characters that fill exactly `room` bytes, if characters end there. -/
def clipped? : (room : Nat) → List Char → Option (List Char)
  | 0, _ => some []
  | _, [] => none
  | room, c :: rest =>
    if c.utf8Size ≤ room then (clipped? (room - c.utf8Size) rest).map (c :: ·) else none

/-- A name as messages show it, with dots where bytes were left out. -/
def shown? (name : String) : Option String :=
  if name.utf8ByteSize ≤ nameRoom then some name
  else (clipped? nameRoom name.toList).map fun cs => String.ofList cs ++ "..."

/-- A message around a name. -/
def around (before name after : String) : Option String :=
  (shown? name).map fun s => before ++ s ++ after

/-- What is wrong, unless the name in it cannot be shown. -/
def Fault.message? : Fault → Option String
  | unclosedGroup => "end pattern with unmatched parenthesis"
  | unopenedGroup => "unmatched close parenthesis"
  | unfinishedGroup => "end pattern in group"
  | unknownOption => "undefined group option"
  | unclosedClass => "premature end of char-class"
  | emptyClass => "empty char-class"
  | reversedRange => "empty range in char class"
  | classInRange => "char-class value at end of range"
  | openRange => "unmatched range specifier in char-class"
  | unknownBracket => "invalid POSIX bracket type"
  | unknownProperty name => around "invalid character property name \x7b" name "\x7d"
  | nothingToRepeat => "target of repeat operator is not specified"
  | unrepeatable => "target of repeat operator is invalid"
  | repeatTooLarge => "too big number for repeat range"
  | numberTooLarge => "too big number"
  | loneEscape => "end pattern at escape"
  | unfinishedControl => "end pattern at control"
  | badControl => "invalid control-code syntax"
  | unfinishedMeta => "end pattern at meta"
  | badMeta => "invalid meta-code syntax"
  | badCodePoint => "invalid code point value"
  | codePointTooLarge => "too big wide-char value"
  | codePointTooLong => "too long wide-char value"
  | shortByteSequence => "too short multibyte code string"
  | emptyName => "group name is empty"
  | badName name => around "invalid group name <" name ">"
  | badNameCharacter name => around "invalid char in group name <" name ">"
  | undefinedName name => around "undefined name <" name "> reference"
  | undefinedGroup name => around "undefined group <" name "> reference"
  | sharedName name => around "multiplex definition name <" name "> call"
  | badReference => "invalid backref number/name"
  | badBehind => "invalid pattern in look-behind"
  | endlessRecursion => "never ending recursion"
  | badCallout => "invalid callout pattern"
  | badCalloutName => "invalid callout name"
  | unknownCallout => "undefined callout name"
  | unsupported => "unsupported syntax"

/-- The message with its sender in front. -/
def Fault.report (f : Fault) : String :=
  match f.message? with
  | some m => "Oniguruma error: " ++ m
  | none => "error: Onig error string was invalid UTF-8"

end ScopeLexer.Regex
