import ScopeLexer.Language.Lexer

/-! Caches of lexers by key. A key gets its lexer once and keeps it; a definition with faults leaves
no trace. -/

namespace ScopeLexer

open ScopeLexer.Language

/-- Lexers by key, in the order in which they were made. -/
structure Cache where
  entries : List (String × Lexer)

namespace Cache

def empty : Cache := ⟨[]⟩

def size (c : Cache) : Nat := c.entries.length

/-- The lexer kept for an id. -/
def get? (c : Cache) (id : String) : Option Lexer := c.entries.lookup (keyOf id)

def contains (c : Cache) (id : String) : Bool := (c.get? id).isSome

/-- How many lexers were made before the one kept for an id; this tells lexers apart. -/
def position? (c : Cache) (id : String) : Option Nat := c.entries.findIdx? (·.1 = keyOf id)

/-- The lexer kept for a definition's key; if there is none, one is made and kept. -/
def fetchWith (make : Definition → Except Error Lexer) (c : Cache) (d : Definition) :
    Except Error Lexer × Cache :=
  match c.get? d.id with
  | some l => (.ok l, c)
  | none =>
    match make d with
    | .ok l => (.ok l, ⟨c.entries ++ [(d.key, l)]⟩)
    | .error e => (.error e, c)

def fetch [Regex.Engine] (c : Cache) (d : Definition) : Except Error Lexer × Cache :=
  c.fetchWith Lexer.compile d

end Cache

end ScopeLexer
