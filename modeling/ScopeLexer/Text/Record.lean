import ScopeLexer.Text.Quoted

/-! Values written out in full: a name with its argument or with its fields, and mappings. -/

namespace ScopeLexer.Text

def applied (name argument : String) : String := name ++ "(" ++ argument ++ ")"

def optional : Option String → String
  | some s => applied "Some" s
  | none => "None"

/-- What keys and values give between braces; nothing else stands there if there are none. -/
def bracedPairs (pairs : List (String × String)) : String :=
  ", ".intercalate (pairs.map fun (key, value) => key ++ ": " ++ value)

def mapping (pairs : List (String × String)) : String := "\x7b" ++ bracedPairs pairs ++ "\x7d"

def record (name : String) (fields : List (String × String)) : String :=
  name ++ " \x7b " ++ bracedPairs fields ++ " \x7d"

end ScopeLexer.Text
