/-! How JSON is written. A text is a sequence of pieces, with blanks between them: words, numbers,
strings and marks. A character of a string stands for itself or is escaped, by a letter or by its
code in base sixteen, beyond four digits by two codes. A tree is a value as it is written. -/

namespace ScopeLexer.Json

/-! ### Strings -/

/-- A digit in base sixteen, in either case, and its value. -/
def IsHex (v : Nat) (c : Char) : Prop :=
  v < 16 ∧ (c = Nat.digitChar v ∨ c = (Nat.digitChar v).toUpper)

/-- Four digits in base sixteen and their value. -/
inductive HexFour : Nat → List Char → Prop
  | digits {u v w x : Nat} {a b c d : Char} (ha : IsHex u a) (hb : IsHex v b) (hc : IsHex w c)
      (hd : IsHex x d) : HexFour (((u * 16 + v) * 16 + w) * 16 + x) [a, b, c, d]

/-- Letters after a backslash, and what they stand for. -/
def escapes : List (Char × Char) :=
  [('"', '"'), ('\\', '\\'), ('/', '/'), ('b', '\x08'), ('f', '\x0C'), ('n', '\n'), ('r', '\r'),
    ('t', '\t')]

/-- A character that stands for itself. -/
def IsPlain (c : Char) : Prop := 0x20 ≤ c.toNat ∧ c ≠ '"' ∧ c ≠ '\\'

instance (c : Char) : Decidable (IsPlain c) := inferInstanceAs (Decidable (_ ∧ _))

/-- A character and how it may be written. -/
inductive Spelling : Char → List Char → Prop
  | plain {c : Char} (h : IsPlain c) : Spelling c [c]
  | letter {c e : Char} (h : (e, c) ∈ escapes) : Spelling c ['\\', e]
  | code {c : Char} {ds : List Char} (h : HexFour c.toNat ds) : Spelling c ('\\' :: 'u' :: ds)
  | pair {c : Char} {ds es : List Char} (hc : 0x10000 ≤ c.toNat)
      (hd : HexFour (0xD800 + (c.toNat - 0x10000) / 0x400) ds)
      (he : HexFour (0xDC00 + (c.toNat - 0x10000) % 0x400) es) :
      Spelling c ('\\' :: 'u' :: ds ++ '\\' :: 'u' :: es)

/-- A text and how it may be written between quotes. -/
inductive Spells : List Char → List Char → Prop
  | nil : Spells [] []
  | cons {c : Char} {cs u w : List Char} (hc : Spelling c u) (hcs : Spells cs w) :
      Spells (c :: cs) (u ++ w)

/-- What may stand between quotes; codes need not be those of a character. -/
inductive IsString : List Char → Prop
  | nil : IsString []
  | plain {c : Char} {w : List Char} (hc : IsPlain c) (hw : IsString w) : IsString (c :: w)
  | letter {c e : Char} {w : List Char} (hc : (e, c) ∈ escapes) (hw : IsString w) :
      IsString ('\\' :: e :: w)
  | code {n : Nat} {ds w : List Char} (hd : HexFour n ds) (hw : IsString w) :
      IsString ('\\' :: 'u' :: (ds ++ w))

theorem Spells.isString {cs w : List Char} (h : Spells cs w) : IsString w := by
  induction h with
  | nil => exact .nil
  | cons hc _ ih =>
    cases hc with
    | plain hc => exact .plain hc ih
    | letter hc => exact .letter hc ih
    | code hd => exact .code hd ih
    | pair _ hd he =>
      rw [List.append_assoc]
      exact .code hd (.code he ih)

theorem spells_self {cs : List Char} (h : ∀ c ∈ cs, IsPlain c) : Spells cs cs := by
  induction cs with
  | nil => exact .nil
  | cons c cs ih =>
    exact .cons (.plain (h c List.mem_cons_self)) (ih fun d hd => h d (List.mem_cons_of_mem c hd))

/-! ### Numbers -/

/-- Some digits. -/
def AreDigits (ds : List Char) : Prop := ds ≠ [] ∧ ∀ d ∈ ds, d.isDigit

/-- Whole digits, with no zero in front of others. -/
def IsWhole (ds : List Char) : Prop := AreDigits ds ∧ (ds.head? = some '0' → ds = ['0'])

/-- A point and digits, or nothing. -/
def IsFraction (cs : List Char) : Prop := cs = [] ∨ ∃ ds, AreDigits ds ∧ cs = '.' :: ds

/-- A letter, a sign or none, and digits, or nothing. -/
def IsExponent (cs : List Char) : Prop :=
  cs = [] ∨ ∃ e ∈ ['e', 'E'], ∃ sign ∈ [[], ['+'], ['-']], ∃ ds, AreDigits ds ∧
    cs = e :: (sign ++ ds)

inductive IsNumber : List Char → Prop
  | parts {sign whole fraction exponent : List Char} (hs : sign = [] ∨ sign = ['-'])
      (hw : IsWhole whole) (hf : IsFraction fraction) (he : IsExponent exponent) :
      IsNumber (sign ++ (whole ++ (fraction ++ exponent)))

/-! ### Values -/

/-- A value as it is written: its numbers, its strings and the names of its fields. -/
inductive Tree
  | null
  | boolean (b : Bool)
  | number (cs : List Char)
  | string (w : List Char)
  | list (items : List Tree)
  | object (fields : List (List Char × Tree))

/-- A piece of a text: a word, a number, a string in its quotes, or a mark. -/
abbrev Piece := List Char

def quoted (w : List Char) : Piece := '"' :: (w ++ ['"'])

namespace Tree

mutual

/-- Numbers and strings are written as they may be. -/
def Valid : Tree → Prop
  | null => True
  | boolean _ => True
  | number cs => IsNumber cs
  | string w => IsString w
  | list items => ItemsValid items
  | object fields => FieldsValid fields

def ItemsValid : List Tree → Prop
  | [] => True
  | t :: ts => t.Valid ∧ ItemsValid ts

def FieldsValid : List (List Char × Tree) → Prop
  | [] => True
  | (name, t) :: fields => IsString name ∧ t.Valid ∧ FieldsValid fields

end

mutual

/-- The pieces of a value. -/
def pieces : Tree → List Piece
  | null => ["null".toList]
  | boolean b => [(if b then "true" else "false").toList]
  | number cs => [cs]
  | string w => [quoted w]
  | list items => ['['] :: itemPieces [] items ++ [[']']]
  | object fields => ['\x7b'] :: fieldPieces [] fields ++ [['\x7d']]

/-- The pieces of items, after `lead` and then after commas. -/
def itemPieces (lead : List Piece) : List Tree → List Piece
  | [] => []
  | t :: ts => lead ++ t.pieces ++ itemPieces [[',']] ts

def fieldPieces (lead : List Piece) : List (List Char × Tree) → List Piece
  | [] => []
  | (name, t) :: fields =>
    lead ++ [quoted name, [':']] ++ t.pieces ++ fieldPieces [[',']] fields

end

end Tree

/-! ### Texts -/

def AreBlanks (cs : List Char) : Prop := ∀ c ∈ cs, c ∈ [' ', '\n', '\t', '\r']

/-- A text of some pieces, with blanks before, between and after them. -/
inductive Spaced : List Piece → List Char → Prop
  | nil {blanks : List Char} (h : AreBlanks blanks) : Spaced [] blanks
  | cons {blanks : List Char} {p : Piece} {ps : List Piece} {cs : List Char}
      (h : AreBlanks blanks) (hps : Spaced ps cs) : Spaced (p :: ps) (blanks ++ (p ++ cs))

/-- The same blanks may stand before every piece. -/
theorem spaced_flatMap {blanks : List Char} (h : AreBlanks blanks) (ps : List Piece) :
    Spaced ps (ps.flatMap (blanks ++ ·)) := by
  induction ps with
  | nil => exact .nil nofun
  | cons p ps ih =>
    rw [List.flatMap_cons, List.append_assoc]
    exact .cons h ih

end ScopeLexer.Json
