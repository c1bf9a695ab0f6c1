import ScopeLexer.Unicode.Case
import ScopeLexer.Unicode.Script

/-! Sets of characters as a pattern writes them: ranges of code points and named properties under
union, intersection and complement. Patterns do not know the newest characters: those have no
property but that of having been left out. -/

namespace ScopeLexer.Regex

open Unicode

inductive Property
  | alnum | alpha | any | ascii | assigned | blank | cntrl | digit | graph | lower | print | punct
  | space | upper | word | xdigit
  | category (members : List Coverage)

/-- A property of the characters that patterns know. -/
def Property.holdsOfKnown : Property → Char → Bool
  | alnum, c => isAlphabetic c || isDigit c
  | alpha, c => isAlphabetic c
  | any, _ => true
  | ascii, c => c.toNat < 0x80
  | assigned, c => within Category.assigned c
  | blank, c => isBlank c
  | cntrl, c => isControl c
  | digit, c => isDigit c
  | graph, c => isGraphic c
  | lower, c => isLowercase c
  | print, c => isGraphic c || within Category.spaceSeparator c
  | punct, c => isPunctuation c || isSymbol c
  | space, c => isWhite c
  | upper, c => isUppercase c
  | word, c => isWord c
  | xdigit, c => isHexDigit c
  | category members, c => members.any (within · c)

def Property.holds (p : Property) (c : Char) : Bool :=
  if within Category.newest c then p matches any else p.holdsOfKnown c

/-- What takes a character of a word outside brackets: there the superscript digits and the
fractions of Latin-1 count as well. -/
def isWordCharacter (c : Char) : Bool :=
  (Property.word.holds c) || ['²', '³', '¹', '¼', '½', '¾'].contains c

/-- The properties that have a name inside brackets, as in `[:alpha:]`. -/
def Property.bracketed : List (String × Property) :=
  [("alnum", alnum), ("alpha", alpha), ("blank", blank), ("cntrl", cntrl), ("digit", digit),
    ("graph", graph), ("lower", lower), ("print", print), ("punct", punct), ("space", space),
    ("upper", upper), ("xdigit", xdigit), ("ascii", ascii), ("word", word)]

open Category in
/-- General categories and a few other properties by all their names. -/
def Property.general : List (List String × Property) :=
  [(["l", "letter"], category [uppercaseLetter, lowercaseLetter, titlecaseLetter, modifierLetter,
      otherLetter]),
    (["lc", "casedletter"], category [uppercaseLetter, lowercaseLetter, titlecaseLetter]),
    (["lu", "uppercaseletter"], category [uppercaseLetter]),
    (["ll", "lowercaseletter"], category [lowercaseLetter]),
    (["lt", "titlecaseletter"], category [titlecaseLetter]),
    (["lm", "modifierletter"], category [modifierLetter]),
    (["lo", "otherletter"], category [otherLetter]),
    (["m", "mark", "combiningmark"], category [nonspacingMark, spacingMark, enclosingMark]),
    (["mn", "nonspacingmark"], category [nonspacingMark]),
    (["mc", "spacingmark"], category [spacingMark]),
    (["me", "enclosingmark"], category [enclosingMark]),
    (["n", "number"], category [decimalNumber, letterNumber, otherNumber]),
    (["nd", "decimalnumber"], category [decimalNumber]),
    (["nl", "letternumber"], category [letterNumber]),
    (["no", "othernumber"], category [otherNumber]),
    (["p", "punctuation", "punct"], category [connector, dash, openingMark, closingMark,
      initialQuote, finalQuote, otherPunctuation]),
    (["pc", "connectorpunctuation"], category [connector]),
    (["pd", "dashpunctuation"], category [dash]),
    (["ps", "openpunctuation"], category [openingMark]),
    (["pe", "closepunctuation"], category [closingMark]),
    (["pi", "initialpunctuation"], category [initialQuote]),
    (["pf", "finalpunctuation"], category [finalQuote]),
    (["po", "otherpunctuation"], category [otherPunctuation]),
    (["s", "symbol"], category [mathSymbol, currencySymbol, modifierSymbol, otherSymbol]),
    (["sm", "mathsymbol"], category [mathSymbol]),
    (["sc", "currencysymbol"], category [currencySymbol]),
    (["sk", "modifiersymbol"], category [modifierSymbol]),
    (["so", "othersymbol"], category [otherSymbol]),
    (["z", "separator"], category [spaceSeparator, [(0x2028, 2)]]),
    (["zs", "spaceseparator"], category [spaceSeparator]),
    (["zl", "lineseparator"], category [[(0x2028, 1)]]),
    (["zp", "paragraphseparator"], category [[(0x2029, 1)]]),
    (["cc", "control"], cntrl), (["cf", "format"], category [format]),
    (["co", "privateuse"], category [privateUse]), (["cs", "surrogate"], category []),
    (["xposixpunct"], punct), (["any"], any), (["assigned"], assigned),
    (["alphabetic"], alpha), (["lowercase"], lower), (["uppercase"], upper),
    (["whitespace", "wspace"], space), (["asciihexdigit", "ahex"], xdigit)]

/-- The property of a name; case, blanks, hyphens and underscores in the name do not count. The
category of punctuation has the name that symbols share inside brackets. -/
def Property.named? (name : String) : Option Property :=
  let plain := String.ofList
    ((name.toList.filter fun c => c ≠ ' ' && c ≠ '-' && c ≠ '_').map Char.toLower)
  ((general.find? fun (names, _) => names.contains plain).map (·.2)
    <|> bracketed.lookup plain
    <|> (scripts.find? fun (names, _) => names.contains plain).map fun (_, t) => category [t])

inductive CharSet
  | empty
  | range (first last : Nat)
  | property (p : Property)
  | wordCharacter
  | union (s t : CharSet)
  | inter (s t : CharSet)
  | compl (s : CharSet)

namespace CharSet

def contains : CharSet → Char → Bool
  | empty, _ => false
  | range first last, c => first ≤ c.toNat && c.toNat ≤ last
  | property p, c => p.holds c
  | wordCharacter, c => isWordCharacter c
  | union s t, c => s.contains c || t.contains c
  | inter s t, c => s.contains c && t.contains c
  | compl s, c => !s.contains c

def full : CharSet := compl empty

def single (n : Nat) : CharSet := range n n

/-- Everything but the line feed. -/
def noNewline : CharSet := compl (single 0x0A)

/-- The complement if `negated`. -/
def negateIf (negated : Bool) (s : CharSet) : CharSet := if negated then compl s else s

/-- The only member of a set that is written with ranges alone. -/
def sole? : CharSet → Option Nat
  | range first last => if first = last then some first else none
  | union empty t => sole? t
  | union s t =>
    match sole? s, sole? t with
    | some a, some b => if a = b then some a else none
    | _, _ => none
  | _ => none

/-- Membership when a character stands for all its case variants. -/
def containsFolded (s : CharSet) (c : Char) : Bool := (caseVariants c).any s.contains

/-- Some member is spelled, in full case folding, with exactly these characters. -/
def containsSpelled (s : CharSet) (cs : List Char) : Bool :=
  CaseTable.spelled.any fun (n, spelling) =>
    spelling == cs.map Char.toNat && s.contains (Char.ofNat n)

end CharSet

end ScopeLexer.Regex
