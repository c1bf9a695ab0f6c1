import ScopeLexer.Unicode.Category

/-! Character classes, each the union of the categories that its definition names. -/

namespace ScopeLexer.Unicode

open Category

def within (t : Coverage) (c : Char) : Bool := t.contains c.toNat

def isAlphabetic (c : Char) : Bool := within alphabetic c

def isUppercase (c : Char) : Bool := within uppercaseLetter c || within otherUppercase c

def isLowercase (c : Char) : Bool := within lowercaseLetter c || within otherLowercase c

def isCased (c : Char) : Bool := isUppercase c || isLowercase c || within titlecaseLetter c

def isMark (c : Char) : Bool :=
  within nonspacingMark c || within spacingMark c || within enclosingMark c

def isDigit (c : Char) : Bool := within decimalNumber c

/-- Letters, marks, decimal digits and connectors. -/
def isWord (c : Char) : Bool := isAlphabetic c || isMark c || isDigit c || within connector c

def isPunctuation (c : Char) : Bool :=
  within connector c || within dash c || within openingMark c || within closingMark c
    || within initialQuote c || within finalQuote c || within otherPunctuation c

def isSymbol (c : Char) : Bool :=
  within mathSymbol c || within currencySymbol c || within modifierSymbol c
    || within otherSymbol c

def isControl (c : Char) : Bool := c.toNat < 0x20 || (0x7F ≤ c.toNat && c.toNat < 0xA0)

/-- The property White_Space. -/
def isWhite (c : Char) : Bool :=
  (0x09 ≤ c.toNat && c.toNat ≤ 0x0D) || c.toNat = 0x85 || within spaceSeparator c
    || c.toNat = 0x2028 || c.toNat = 0x2029

def isBlank (c : Char) : Bool := c = '\t' || within spaceSeparator c

def isGraphic (c : Char) : Bool := within assigned c && !isWhite c && !isControl c

def isHexDigit (c : Char) : Bool :=
  c.isDigit || ('a' ≤ c && c ≤ 'f') || ('A' ≤ c && c ≤ 'F')

def isGraphemeExtend (c : Char) : Bool :=
  within nonspacingMark c || within enclosingMark c || within otherGraphemeExtend c

def isCaseIgnorable (c : Char) : Bool :=
  within nonspacingMark c || within enclosingMark c || within format c || within modifierLetter c
    || within modifierSymbol c || within otherCaseIgnorable c

/-- Characters with a shape of their own, and the space. -/
def isVisible (c : Char) : Bool :=
  c = ' ' || (isGraphic c && !within format c && !within privateUse c)

end ScopeLexer.Unicode
