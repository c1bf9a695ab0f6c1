import ScopeLexer.Regex.Matcher

/-! Landmarks, which are atoms that every match passes. None of them lies before the start of the
match, so a search need not start behind the last place of any. -/

namespace ScopeLexer.Regex

/-- Looks at what stands before a place, or calls a group that may do so. -/
def Program.turnsBack : Program → Bool
  | behind _ _ _ | call _ => true
  | seq p q | alt p q => p.turnsBack || q.turnsBack
  | loop p _ _ _ _ | group _ p | atomic p | ahead _ p => p.turnsBack
  | _ => false

/-- Atoms that every match of the program passes at its start or behind that. Those that come after
what turns back are left out, and those in loops. -/
def Program.landmarks : Program → List Atom
  | atom a =>
    match a with
    | .chars (_ :: _) | .set _ => [a]
    | _ => []
  | seq p q => p.landmarks ++ if p.turnsBack then [] else q.landmarks
  | group _ p | atomic p | ahead false p => p.landmarks
  | _ => []

/-- The last of the first `n` positions at which an atom matches. -/
def Atom.lastPlace? (text : Text) (a : Atom) : (n : Nat) → Option Nat
  | 0 => none
  | n + 1 => if (a.ends text text.size n).isEmpty then a.lastPlace? text n else some n

/-- The number of positions at which a search with these landmarks may start. -/
def startCount (text : Text) : List Atom → Nat
  | [] => text.size + 1
  | a :: rest =>
    match a.lastPlace? text text.size with
    | some i => min (i + 1) (startCount text rest)
    | none => 0

end ScopeLexer.Regex
