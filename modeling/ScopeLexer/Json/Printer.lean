import ScopeLexer.Json.Document

/-! Values written as JSON, each item and field on a line of its own, two blanks deeper than the
list or object it belongs to. -/

namespace ScopeLexer.Json

def hexDigit (n : Nat) : Char := Nat.digitChar (n % 16)

/-- A character inside quotes. -/
def spelled (c : Char) : List Char :=
  match c with
  | '"' => ['\\', '"']
  | '\\' => ['\\', '\\']
  | '\x08' => ['\\', 'b']
  | '\t' => ['\\', 't']
  | '\n' => ['\\', 'n']
  | '\x0C' => ['\\', 'f']
  | '\r' => ['\\', 'r']
  | c =>
    if c.toNat < 0x20 then ['\\', 'u', '0', '0', hexDigit (c.toNat / 16), hexDigit c.toNat] else [c]

def stringText (s : String) : String :=
  String.ofList ('"' :: (s.toList.flatMap spelled ++ ['"']))

def Number.text : Number → String
  | unsigned n => toString n
  | negative n => "-" ++ toString n
  | floating x => floatText x

def blanks (n : Nat) : String := String.ofList (List.replicate n ' ')

/-- Lines between two brackets, or nothing between them. -/
def bracketed (first last : String) (depth : Nat) : List String → String
  | [] => first ++ last
  | lines =>
    let indent := "\n" ++ blanks (2 * depth)
    first ++ indent ++ "  " ++ ("," ++ indent ++ "  ").intercalate lines ++ indent ++ last

namespace Value

mutual

/-- A value in lists and objects `depth` deep. -/
def printed (depth : Nat) : Value → String
  | null => "null"
  | boolean b => if b then "true" else "false"
  | number n => n.text
  | string s => stringText s
  | list items => bracketed "[" "]" depth (printedItems (depth + 1) items)
  | object fields => bracketed "\x7b" "\x7d" depth (printedFields (depth + 1) fields)

def printedItems (depth : Nat) : List Value → List String
  | [] => []
  | v :: vs => v.printed depth :: printedItems depth vs

def printedFields (depth : Nat) : List (String × Value) → List String
  | [] => []
  | (key, v) :: fields =>
    (stringText key ++ ": " ++ v.printed depth) :: printedFields depth fields

end

def text (v : Value) : String := v.printed 0

end Value

end ScopeLexer.Json
