import ScopeLexer.Language.Json
import ScopeLexer.Scan.Nesting

/-! Scanners and sessions. A scanner counts its matches over all its scans. A session holds a
catalogue and a cache, and gives every scan a scanner of its own. -/

namespace ScopeLexer

open ScopeLexer.Language

variable [Regex.Engine]

structure Scanner where
  catalogue : Catalogue
  options : Options
  cache : Cache
  count : Nat

namespace Scanner

def lexer (s : Scanner) (d : Definition) : Except Error Lexer × Scanner :=
  let (l, cache) := s.cache.fetch d
  (l, { s with cache })

def scan (s : Scanner) (l : Lexer) (source : String) : Run Chunk × Scanner :=
  let r := ScopeLexer.scan s.catalogue s.options s.options.depthLimit l (Regex.Text.ofString source)
    s.cache s.count
  (r, { s with cache := r.cache, count := s.count + r.spent })

end Scanner

structure Session where
  catalogue : Catalogue
  cache : Cache
  options : Options

namespace Session

def empty : Session := ⟨.empty, .empty, {}⟩

def standard : Session := ⟨.standard, .empty, {}⟩

def register (s : Session) (d : Definition) : Session :=
  { s with catalogue := s.catalogue.register d }

def registerAll (s : Session) (ds : List Definition) : Session := ds.foldl register s

/-- Registers a definition that was read, or passes on why it was not. -/
def registerRead (s : Session) : Except Error Definition → Except Error Session
  | .ok d => .ok (s.register d)
  | .error e => .error e

/-- The lexer of a language, made on first use. -/
def lexer (s : Session) (name : String) : Except Error Lexer × Session :=
  match s.catalogue.find? name with
  | none => (.error (.languageNotFound name), s)
  | some d =>
    let (l, cache) := s.cache.fetch d
    (l, { s with cache })

/-- Scans a text in a language. The chunks before an error are kept. -/
def parse (s : Session) (name source : String) : Run Chunk × Session :=
  match s.lexer name with
  | (.error e, s) => (.failed e s.cache, s)
  | (.ok l, s) =>
    let r := ((⟨s.catalogue, s.options, s.cache, 0⟩ : Scanner).scan l source).1
    (r, { s with cache := r.cache })

/-- The chunks of a text in a language, if all goes well. -/
def tokenize (s : Session) (name source : String) : Except Error (List Chunk) × Session :=
  let (r, s) := s.parse name source
  (r.result, s)

end Session

end ScopeLexer
