import ScopeLexer.Json.Printer
import ScopeLexer.Scan.Chunk
import ScopeLexer.Style
import ScopeLexer.Text.Quoted

/-! Three ways to show chunks: the scopes line by line, the text in colours, and JSON. -/

namespace ScopeLexer

/-- The characters that start at one of the bytes from `start` up to `stop`. -/
def charactersBetween (start stop : Nat) : (offset : Nat) → List Char → List Char
  | _, [] => []
  | offset, c :: cs =>
    (if start ≤ offset ∧ offset < stop then [c] else [])
      ++ charactersBetween start stop (offset + c.utf8Size) cs

namespace Chunk

/-- The text between two ends of scopes or tokens. -/
def piece (c : Chunk) (start stop : Nat) : String :=
  String.ofList (charactersBetween start stop 0 c.text.toList)

/-! ### Lines -/

/-- A scope, indented by the number of its ancestors. -/
def scopeLine (c : Chunk) (ancestors : List String) (s : Scope) : String :=
  Json.blanks (2 * (ancestors.length + 1)) ++ s.name ++ " [" ++ toString s.start ++ ".."
    ++ toString s.stop ++ "] " ++ Text.quoted (c.piece s.start s.stop) ++ "\n"

/-- The quoted text, and the scopes in it below. -/
def listing (c : Chunk) : String :=
  Text.quoted c.text ++ "\n" ++ String.join
    ((c.scopes.flatMap (·.walk.toList)).map fun (ancestors, s) => c.scopeLine ancestors s)

/-! ### Colours -/

/-- The innermost of the scopes that cover a token and have a style gives the style. -/
def styleOf (t : Token) : Option Style := t.scopes.reverse.findSome? Style.ofName?

/-- The text cut into pieces of one style. -/
def pieces (c : Chunk) : List (String × Option Style) :=
  c.tokens.map fun t => (c.piece t.start t.stop, styleOf t)

/-- A piece between the control sequences that switch its colour on and off. -/
def painted : String × Option Style → String
  | (text, some s) => "\x1b[38;5;" ++ toString s.colour ++ "m" ++ text ++ "\x1b[0m"
  | (text, none) => text

def coloured (c : Chunk) : String := String.join (c.pieces.map painted)

end Chunk

/-! ### JSON -/

namespace Scope

open Json

mutual

def toJson : Scope → Value
  | ⟨name, start, length, children⟩ =>
    .object
      [("name", .string name), ("start", .number (.unsigned start)),
        ("length", .number (.unsigned length)), ("children", .list (toJsons children))]

def toJsons : List Scope → List Value
  | [] => []
  | s :: ss => s.toJson :: toJsons ss

end

end Scope

open Json

def Token.toJson (t : Token) : Value :=
  .object
    [("span", .object
        [("start", .number (.unsigned t.start)), ("end", .number (.unsigned t.stop))]),
      ("scopes", .list (t.scopes.map .string))]

def Chunk.toJson (c : Chunk) : Value :=
  .object [("text", .string c.text), ("scopes", .list (Scope.toJsons c.scopes))]

end ScopeLexer
