import ScopeLexer.Language.Standard

/-! Catalogues of definitions, one for each key. A name finds the definition with that id in any
case; failing that, of the definitions that answer to the name, the one with the smallest key. -/

namespace ScopeLexer

open ScopeLexer.Language

structure Catalogue where
  definitions : List Definition
  distinct : definitions.Pairwise (·.key ≠ ·.key)

namespace Catalogue

def empty : Catalogue := ⟨[], .nil⟩

/-- Adds a definition in place of any with its key. -/
def register (c : Catalogue) (d : Definition) : Catalogue where
  definitions := c.definitions.filter (·.key ≠ d.key) ++ [d]
  distinct := by
    refine List.pairwise_append.2 ⟨c.distinct.filter _, by simp, fun e he f hf => ?_⟩
    rw [List.mem_singleton.1 hf]
    simpa using (List.mem_filter.1 he).2

def ofList (ds : List Definition) : Catalogue := ds.foldl register empty

/-- The catalogue of the languages that are always at hand. -/
def standard : Catalogue := ofList Standard.all

def size (c : Catalogue) : Nat := c.definitions.length

def get? (c : Catalogue) (key : String) : Option Definition := c.definitions.find? (·.key = key)

/-- The definitions that answer to a name, the one with the smallest key first. -/
def answering (c : Catalogue) (name : String) : List Definition :=
  (c.definitions.filter (·.answersTo name)).mergeSort (·.key ≤ ·.key)

def find? (c : Catalogue) (name : String) : Option Definition :=
  (c.get? (keyOf name)).or (c.answering name).head?

def contains (c : Catalogue) (name : String) : Bool := (c.find? name).isSome

def ids (c : Catalogue) : List String := (c.definitions.map (·.id)).mergeSort (· ≤ ·)

end Catalogue

end ScopeLexer
