import ScopeLexer.Json.Number

/-! Strings of a JSON text, as they stand between their quotes. They can be read as text, read as a
number in quotes, or passed over, and each way objects to something else. -/

namespace ScopeLexer.Json

/-- The bytes after an opening quote up to the closing one, and how many bytes of the text follow
them, the closing quote included: none if the string is not closed. -/
structure Raw where
  bytes : Bytes
  beyond : Nat
  deriving DecidableEq, Repr

def hexValue? (b : UInt8) : Option Nat :=
  if isDigit b then some (b.toNat - 0x30)
  else if 0x61 ≤ b ∧ b ≤ 0x66 then some (b.toNat - 0x61 + 10)
  else if 0x41 ≤ b ∧ b ≤ 0x46 then some (b.toNat - 0x41 + 10)
  else none

/-- The four digits at the start of `s`, with `beyond` bytes after `s`. -/
def hexFour (beyond : Nat) (s : Bytes) : Except Fault Nat :=
  match s with
  | a :: b :: c :: d :: _ =>
    match hexValue? a, hexValue? b, hexValue? c, hexValue? d with
    | some a, some b, some c, some d => .ok (((a * 16 + b) * 16 + c) * 16 + d)
    | _, _, _, _ => .error .badEscape
  | _ => .error (if s.length + beyond < 4 then .truncatedString else .badEscape)

/-- The byte that a letter after a backslash stands for. -/
def controlByte? : UInt8 → Option UInt8
  | 0x22 => some 0x22
  | 0x5C => some 0x5C
  | 0x2F => some 0x2F
  | 0x62 => some 0x08
  | 0x66 => some 0x0C
  | 0x6E => some 0x0A
  | 0x72 => some 0x0D
  | 0x74 => some 0x09
  | _ => none

def isLeading (n : Nat) : Bool := 0xD800 ≤ n && n < 0xDC00

def isTrailing (n : Nat) : Bool := 0xDC00 ≤ n && n < 0xE000

/-- The second half of a surrogate pair, at the start of `s`. -/
def trailingHalf (beyond : Nat) (s : Bytes) : Except Fault Nat :=
  match s with
  | 0x5C :: 0x75 :: t => do
    let n ← hexFour beyond t
    if isTrailing n then .ok n else .error .loneSurrogate
  | [] | [0x5C] => .error (if beyond = 0 then .truncatedString else .cutSurrogate)
  | _ => .error .cutSurrogate

/-- The character of `\u` before `s`, and how many bytes of `s` belong to it. -/
def unicodeEscape (beyond : Nat) (s : Bytes) : Except Fault (Char × Nat) := do
  let n ← hexFour beyond s
  if isTrailing n then throw .loneSurrogate
  if isLeading n then
    let m ← trailingHalf beyond (s.drop 4)
    return (Char.ofNat ((n - 0xD800) * 0x400 + (m - 0xDC00) + 0x10000), 10)
  return (Char.ofNat n, 4)

/-- The bytes of the text that a string spells. -/
def spelledBytes (beyond : Nat) : Bytes → Except Fault Bytes
  | [] => if beyond = 0 then .error .truncatedString else .ok []
  | 0x5C :: s =>
    match s with
    | [] => .error .truncatedString
    | 0x75 :: t =>
      match unicodeEscape beyond t with
      | .error e => .error e
      | .ok (c, used) => (spelledBytes beyond (t.drop used)).map (String.utf8EncodeChar c ++ ·)
    | b :: t =>
      match controlByte? b with
      | some a => (spelledBytes beyond t).map (a :: ·)
      | none => .error .badEscape
  | b :: s => if b < 0x20 then .error .controlCharacter else (spelledBytes beyond s).map (b :: ·)
termination_by s => s.length

/-- The text of a string. -/
def Raw.text (r : Raw) : Except Fault String := do
  let bytes ← spelledBytes r.beyond r.bytes
  match String.fromUTF8? ⟨bytes.toArray⟩ with
  | some s => .ok s
  | none => .error .badCodePoint

/-- What is wrong with a string that is passed over; its characters do not count. -/
def skimBytes (beyond : Nat) : Bytes → Except Fault Unit
  | [] => if beyond = 0 then .error .truncatedString else .ok ()
  | 0x5C :: s =>
    match s with
    | [] => .error .truncatedString
    | 0x75 :: t =>
      match hexFour beyond t with
      | .error e => .error e
      | .ok _ => skimBytes beyond (t.drop 4)
    | b :: t =>
      match controlByte? b with
      | some _ => skimBytes beyond t
      | none => .error .badEscape
  | b :: s => if b < 0x20 then .error .controlCharacter else skimBytes beyond s
termination_by s => s.length

def Raw.skim (r : Raw) : Except Fault Unit := skimBytes r.beyond r.bytes

/-- What `accept` makes of the number in a string; nothing else may stand there. -/
def Raw.number {α : Type} (accept : Number → Except Fault α) (r : Raw) : Except Fault α := do
  let closing : Bytes := if r.beyond = 0 then [] else [0x22]
  let (negative, s) ← match r.bytes with
    | 0x2D :: s => .ok (true, s)
    | b :: s => if isDigit b then .ok (false, b :: s) else .error .keyNotNumber
    | [] => .error .keyNotNumber
  match readNumeral negative (s ++ closing) with
  | .error .truncated => .error .truncatedValue
  | .error .malformed => .error .badNumber
  | .ok (m, rest) =>
    let a ← accept (← m.value)
    if rest = [0x22] then .ok a else .error .expectedQuote

end ScopeLexer.Json
