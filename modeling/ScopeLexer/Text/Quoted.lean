import ScopeLexer.Unicode.Property

/-! Quoted texts. Visible characters stand for themselves; a quote, a backslash and the common
control characters take a backslash, and everything else is written by its number. -/

namespace ScopeLexer.Text

def hexDigits (n : Nat) : List Char := Nat.toDigits 16 n

/-- A character by its number, in braces. -/
def numberEscape (c : Char) : List Char :=
  '\\' :: 'u' :: '\x7b' :: (hexDigits c.toNat ++ ['\x7d'])

def quotedCharacter (c : Char) : List Char :=
  match c with
  | '\x00' => ['\\', '0']
  | '\t' => ['\\', 't']
  | '\n' => ['\\', 'n']
  | '\r' => ['\\', 'r']
  | '"' => ['\\', '"']
  | '\\' => ['\\', '\\']
  | c => if Unicode.isVisible c && !Unicode.isGraphemeExtend c then [c] else numberEscape c

def quoted (s : String) : String :=
  String.ofList ('"' :: (s.toList.flatMap quotedCharacter ++ ['"']))

/-- Items between brackets, a comma and a blank apart. -/
def bracketedList (items : List String) : String := "[" ++ ", ".intercalate items ++ "]"

end ScopeLexer.Text
