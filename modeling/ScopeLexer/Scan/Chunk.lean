import ScopeLexer.Regex.Engine
import ScopeLexer.Scope.Token

/-! Chunks of text. Texts are cut at characters, scopes count bytes. -/

namespace ScopeLexer

/-- A piece of text with its scopes, which count from its start. A piece without scopes is plain. -/
structure Chunk where
  text : String
  scopes : List Scope
  deriving Repr

namespace Chunk

def isPlain (c : Chunk) : Bool := c.scopes.isEmpty

def size (c : Chunk) : Nat := c.text.utf8ByteSize

def tokens (c : Chunk) : List Token := Scope.flatten c.scopes c.size

/-- The scopes of consecutive chunks, from the start of the first one, which lies at `offset`. -/
def scopesFrom (offset : Nat) : List Chunk → List Scope
  | [] => []
  | c :: cs => c.scopes.map (Scope.shift offset) ++ scopesFrom (offset + c.size) cs

end Chunk

namespace Regex.Text

def ofString (s : String) : Text := s.toList.toArray

/-- The characters from `start` up to `stop`. -/
def slice (text : Text) (start stop : Nat) : String :=
  String.ofList (text.extract start stop).toList

/-- How many bytes these characters take. -/
def width (text : Text) (start stop : Nat) : Nat := (text.slice start stop).utf8ByteSize

end Regex.Text

end ScopeLexer
