import ScopeLexer.Decimal.Shortest
import ScopeLexer.Json.Fault

/-! Numbers of a JSON text. A numeral keeps the digits as written. Its value is an integer if it is
written as one and fits into 64 bits, and otherwise a floating-point number. -/

namespace ScopeLexer.Json

abbrev Bytes := List UInt8

/-- A numeral as written; an exponent has a sign, negative if true, and digits. -/
structure Numeral where
  negative : Bool
  whole : List Nat
  fraction : List Nat
  exponent : Option (Bool × List Nat)
  deriving DecidableEq, Repr

/-- The value of a numeral; a negative integer is given by its absolute value. -/
inductive Number
  | unsigned (n : Nat)
  | negative (n : Nat)
  | floating (x : Float)

/-! ### Values -/

def largest : Nat := Nat.pow 2 64 - 1

/-- Reads digits while the number fits into 64 bits; also the digits that are left. -/
def accumulate (n : Nat) : List Nat → Nat × List Nat
  | [] => (n, [])
  | d :: ds => if 10 * n + d ≤ largest then accumulate (10 * n + d) ds else (n, d :: ds)

def powerOfTen (k : Nat) : Float := Float.ofScientific 1 false k

/-- Divides by a power of ten, in steps that a floating-point number can hold. -/
def scaleDown (x : Float) (k : Nat) : Float :=
  if k ≤ 308 then x / powerOfTen k
  else if x == 0 then x
  else scaleDown (x / powerOfTen 308) (k - 308)
termination_by k

/-- `n * 10 ^ k`, rounded, unless it is too large. -/
def floatOf (n : Nat) (k : Int) : Except Fault Float :=
  let x := Float.ofNat n
  if k < 0 then .ok (scaleDown x (-k).toNat)
  else if k ≤ 308 then
    let y := x * powerOfTen k.toNat
    if y.isInf then .error .numberOutOfRange else .ok y
  else if n = 0 then .ok x
  else .error .numberOutOfRange

def decimalValue (ds : List Nat) : Nat := ds.foldl (10 * · + ·) 0

/-- The absolute value of a numeral that is not written as a small integer. -/
def Numeral.float (m : Numeral) : Except Fault Float :=
  let (n, wholeLeft) := accumulate 0 m.whole
  let (n, fractionLeft) := accumulate n m.fraction
  let k : Int := wholeLeft.length - (m.fraction.length - fractionLeft.length : Nat)
  match m.exponent with
  | none => floatOf n k
  | some (negative, ds) =>
    if decimalValue ds < Nat.pow 2 31 then
      floatOf n (if negative then k - decimalValue ds else k + decimalValue ds)
    else if n ≠ 0 ∧ !negative then .error .numberOutOfRange
    else .ok 0

def Numeral.value (m : Numeral) : Except Fault Number :=
  let (n, left) := accumulate 0 m.whole
  if left.isEmpty ∧ m.fraction.isEmpty ∧ m.exponent.isNone ∧
      (!m.negative ∨ (0 < n ∧ n ≤ Nat.pow 2 63)) then
    .ok (if m.negative then .negative n else .unsigned n)
  else m.float.map fun x => .floating (if m.negative then -x else x)

/-! ### Texts -/

def digitText (ds : Nat) : String := toString ds

def zeros (n : Nat) : String := String.ofList (List.replicate n '0')

/-- Decimals from a hundred-thousandth up to sixteen whole digits are written out, with at least one
digit after the point; others take an exponent. -/
def scientificText (d : Decimal.Scientific) : String :=
  let ds := digitText d.digits
  let point : Int := ds.length + d.exponent
  if 0 ≤ d.exponent ∧ point ≤ 16 then ds ++ zeros d.exponent.toNat ++ ".0"
  else if 0 < point ∧ point ≤ 16 then
    String.ofList (ds.toList.take point.toNat) ++ "." ++ String.ofList (ds.toList.drop point.toNat)
  else if -5 < point ∧ point ≤ 0 then "0." ++ zeros (-point).toNat ++ ds
  else
    let rest := String.ofList (ds.toList.drop 1)
    String.ofList (ds.toList.take 1) ++ (if rest.isEmpty then "" else "." ++ rest) ++ "e"
      ++ (if 0 < point then "+" else "") ++ toString (point - 1)

def floatText (x : Float) : String :=
  let bits := x.toBits.toNat
  let size := bits % Nat.pow 2 63
  (if Nat.pow 2 63 ≤ bits then "-" else "") ++
    if size = 0 then "0.0" else scientificText (Decimal.Rounding.ofBits size).shortest

def Number.found : Number → Found
  | unsigned n => .integer n
  | negative n => .integer (-n)
  | floating x => .floating (floatText x)

/-! ### Reading -/

def isDigit (b : UInt8) : Bool := 0x30 ≤ b && b ≤ 0x39

def digits (s : Bytes) : List Nat := (s.takeWhile isDigit).map (·.toNat - 0x30)

def afterDigits (s : Bytes) : Bytes := s.dropWhile isDigit

/-- A number that breaks off where its text ends, or goes on wrongly. -/
inductive NumberFault
  | truncated
  | malformed
  deriving DecidableEq, Repr

/-- A number that lacks a digit before `s`. -/
def missingDigit (s : Bytes) : NumberFault := if s.isEmpty then .truncated else .malformed

/-- The exponent after its letter. -/
def readExponent (s : Bytes) : Except NumberFault ((Bool × List Nat) × Bytes) :=
  let (negative, t) := match s with
    | 0x2B :: t => (false, t)
    | 0x2D :: t => (true, t)
    | t => (false, t)
  if (digits t).isEmpty then .error (missingDigit t) else .ok ((negative, digits t), afterDigits t)

/-- The exponent, if one follows. -/
def readExponent? (s : Bytes) : Except NumberFault (Option (Bool × List Nat) × Bytes) :=
  match s with
  | 0x65 :: t | 0x45 :: t => (readExponent t).map fun (e, rest) => (some e, rest)
  | _ => .ok (none, s)

/-- The fraction, if one follows. -/
def readFraction? (s : Bytes) : Except NumberFault (List Nat × Bytes) :=
  match s with
  | 0x2E :: t =>
    if (digits t).isEmpty then .error (missingDigit t) else .ok (digits t, afterDigits t)
  | _ => .ok ([], s)

/-- A numeral after its sign. A zero in front stands alone. -/
def readNumeral (negative : Bool) (s : Bytes) : Except NumberFault (Numeral × Bytes) :=
  let whole := digits s
  if whole.isEmpty then .error (missingDigit s)
  else if 1 < whole.length ∧ whole.head? = some 0 then .error .malformed
  else do
    let (fraction, s) ← readFraction? (afterDigits s)
    let (exponent, s) ← readExponent? s
    return (⟨negative, whole, fraction, exponent⟩, s)

end ScopeLexer.Json
