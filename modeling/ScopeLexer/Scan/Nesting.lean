import ScopeLexer.Catalogue
import ScopeLexer.Scan.Course
import ScopeLexer.Scan.Part

/-! Scans. A scan follows the course of a lexer, counts its matches, and cuts the text into chunks.
The parts of a match that are in other languages are scanned in turn, down to a number of levels. -/

namespace ScopeLexer

open ScopeLexer.Language Regex

namespace Scan

/-- The text between two positions as a plain chunk, if there is any. -/
def gap (text : Text) (start stop : Nat) : List Chunk :=
  if start < stop then [⟨text.slice start stop, []⟩] else []

/-- The chunk of a match, after the gap before it. An error in a part leaves the gap. -/
def take (embed : Embed) (o : Options) (l : Lexer) (text : Text) (cursor : Nat) {origin : Nat}
    (m : Match text.size origin) (cache : Cache) (count : Nat) : Run Chunk :=
  let found := allScopes embed text m.span.start (l.parts m) cache (count + 1)
  Run.counted o cache count
    { found with
      items := gap text cursor m.span.start ++
        if found.error?.isSome then []
        else [⟨text.slice m.span.start m.span.stop, Scope.forest found.items⟩] }

/-- Takes a match again and again, at most `more` times after the first. -/
def takeAgain (embed : Embed) (o : Options) (l : Lexer) (text : Text) {origin : Nat}
    (m : Match text.size origin) : (more cursor : Nat) → Cache → (count : Nat) → Run Chunk
  | 0, cursor, cache, count =>
    (take embed o l text cursor m cache count).andThen fun cache _ => .failed .stalled cache
  | more + 1, cursor, cache, count =>
    (take embed o l text cursor m cache count).andThen fun cache spent =>
      takeAgain embed o l text m more m.span.stop cache (count + spent)

/-- Follows a course. One without end goes on until the matches run out, or stalls at once. -/
def follow (embed : Embed) (o : Options) (l : Lexer) (text : Text) :
    Course text.size → Cache → (count : Nat) → Run Chunk
  | .finish cursor, cache, _ => .done (gap text cursor text.size) cache
  | .pass _ rest, cache, count =>
    (Run.counted o cache count (.done [] cache)).andThen fun cache spent =>
      follow embed o l text rest cache (count + spent)
  | .take cursor m rest, cache, count =>
    (take embed o l text cursor m cache count).andThen fun cache spent =>
      follow embed o l text rest cache (count + spent)
  | .again cursor m, cache, count =>
    takeAgain embed o l text m ((o.matchLimit.getD 0) - count) cursor cache count

/-- Runs a language by its name, its lexer through `scan`. -/
def embedded [Engine] (c : Catalogue) (scan : Lexer → Text → Cache → Nat → Run Chunk) : Embed :=
  fun name text cache count =>
    match c.find? name with
    | none => .failed (.languageNotFound name) cache
    | some d =>
      match cache.fetch d with
      | (.error e, cache) => .failed e cache
      | (.ok l, cache) => scan l text cache count

/-- Embeds no language at all. -/
def refused (o : Options) : Embed := fun _ _ cache _ => .failed (.nestingTooDeep o.depthLimit) cache

end Scan

/-- Scans a text with at most `levels` languages open inside each other; `count` matches were
counted before. -/
def scan [Engine] (c : Catalogue) (o : Options) :
    (levels : Nat) → Lexer → Text → Cache → (count : Nat) → Run Chunk
  | 0, l, text, cache, count => Scan.follow (Scan.refused o) o l text (l.course text) cache count
  | levels + 1, l, text, cache, count =>
    Scan.follow (Scan.embedded c (scan c o levels)) o l text (l.course text) cache count

end ScopeLexer
