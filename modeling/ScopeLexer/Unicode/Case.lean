import ScopeLexer.Unicode.CaseTable
import ScopeLexer.Unicode.Property

/-! Full case folding of characters, the characters that share a folding, and the lowercase form of
a text. Lowercasing looks at a character alone except for the capital sigma, which is written in its
final form at the end of a word. -/

namespace ScopeLexer.Unicode

def lookupSorted {α : Type} : List (Nat × α) → Nat → Option α
  | [], _ => none
  | (k, a) :: rest, n => if n < k then none else if n = k then some a else lookupSorted rest n

/-- The full case folding, one to three characters. -/
def fold (c : Char) : List Char :=
  match CaseTable.folding.image? c.toNat with
  | some n => [Char.ofNat n]
  | none => ((lookupSorted CaseTable.spelled c.toNat).map (·.map Char.ofNat)).getD [c]

/-- All characters with the folding of `c`. -/
def caseVariants (c : Char) : List Char :=
  match fold c with
  | [t] => t :: (CaseTable.folding.preimages t.toNat).map Char.ofNat
  | ts => (CaseTable.spelled.filter (·.2 == ts.map Char.toNat)).map (Char.ofNat ·.1)

def lower (c : Char) : List Char :=
  if c = 'İ' then ['i', '\u0307']
  else [((CaseTable.lowering.image? c.toNat).map Char.ofNat).getD c]

/-- The first character that is not case-ignorable is cased. -/
def meetsCased (cs : List Char) : Bool :=
  match cs.dropWhile isCaseIgnorable with
  | c :: _ => isCased c
  | [] => false

/-- Lowercases a text after the reversed text `before`. -/
def lowerFrom (before : List Char) : List Char → List Char
  | [] => []
  | c :: rest =>
    (if c = 'Σ' then [if meetsCased before && !meetsCased rest then 'ς' else 'σ'] else lower c)
      ++ lowerFrom (c :: before) rest

def lowercase (s : String) : String := String.ofList (lowerFrom [] s.toList)

/-- ASCII letters alone are compared without case. -/
def eqIgnoringAsciiCase (s t : String) : Bool :=
  s.toList.map Char.toLower == t.toList.map Char.toLower

/-- Nothing but white space. -/
def isBlankText (s : String) : Bool := s.toList.all isWhite

end ScopeLexer.Unicode
