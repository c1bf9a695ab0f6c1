import ScopeLexer.Regex.Loop
import ScopeLexer.Regex.Token

/-! The tree of a pattern. The reader keeps a stack of open groups; each holds the alternatives that
are complete and the pieces of the current one, last first. Flags set without a group of their own
open a frame as well, which closes together with the group around it. What is unsupported is refused
with its token, so every tree can be run. -/

namespace ScopeLexer.Regex

/-- A pattern, and whether a loop may be put around it. -/
structure Piece where
  pattern : Pattern Reference
  repeatable : Bool

namespace Piece

/-- A piece of one token. One that takes no text is not repeated. -/
def ofPattern (p : Pattern Reference) : Piece :=
  ⟨p, match p with
    | .assertion _ | .keep | .empty | .fail => false
    | _ => true⟩

/-- A piece in front of others. Runs of characters that meet become one run, so that a character
can stand for several across them. -/
def precede (p : Pattern Reference) : List (Pattern Reference) → List (Pattern Reference)
  | [] => [p]
  | q :: rest =>
    match p, q with
    | .atom (.chars cs), .atom (.chars ds) => .atom (.chars (cs ++ ds)) :: rest
    | .atom (.folded cs a), .atom (.folded ds b) =>
      if a = b then .atom (.folded (cs ++ ds) a) :: rest else p :: q :: rest
    | _, _ => p :: q :: rest

def sequence : List (Pattern Reference) → Pattern Reference
  | [] => .empty
  | [p] => p
  | p :: rest => .seq p (sequence rest)

/-- The sequence of pieces given last first. -/
def ofReversed : List Piece → Piece
  | [p] => p
  | ps => ⟨sequence (ps.foldl (fun rest p => precede p.pattern rest) []), true⟩

/-- The alternation of branches given last first. An alternation that is itself the last branch
stays apart from the others. -/
def anyOf : (branches : List Piece) → Piece
  | [] => ⟨.empty, true⟩
  | [p] => p
  | p :: rest =>
    let last := match p.pattern with
      | .alt _ _ => p.pattern.isolated
      | q => q
    rest.foldl (fun q b => ⟨.alt b.pattern q.pattern, b.repeatable && q.repeatable⟩)
      ⟨last, p.repeatable⟩

/-- A loop around a piece; exactly one turn is no loop. -/
def looped (p : Piece) (least : Nat) (most : Option Nat) (greed : Greed) : Except Fault Piece :=
  if !p.repeatable then .error .unrepeatable
  else if least = 1 ∧ most = some 1 then .ok p
  else
    (p.pattern.looped least most (greed ≠ .lazy)).map fun q =>
      ⟨if greed = .possessive then .atomic q else q, true⟩

end Piece

inductive Enclosure
  | whole
  | flags
  | setting
  | capture (index : Nat)
  | opening (o : Opening)
  | choice (groups : List Nat) (level : Option Int)
  deriving DecidableEq, Repr

def Enclosure.wrap : Enclosure → Piece → Piece
  | whole, p | opening .plain, p => p
  | opening .atomic, p => ⟨.atomic p.pattern, true⟩
  | opening (.ahead negated), p => ⟨.ahead negated p.pattern, false⟩
  | opening (.behind negated), p => ⟨.behind negated p.pattern, false⟩
  | capture index, p => ⟨.group index p.pattern, true⟩
  | choice groups level, p => ⟨.choice groups level p.pattern, true⟩
  | _, p => ⟨p.pattern.isolated, true⟩

structure Frame where
  enclosure : Enclosure
  flags : Flags
  branches : List Piece
  pieces : List Piece

namespace Frame

def new (e : Enclosure) (f : Flags) : Frame := ⟨e, f, [], []⟩

def add (fr : Frame) (p : Piece) : Frame := { fr with pieces := p :: fr.pieces }

/-- Starts the next alternative. -/
def nextBranch (fr : Frame) : Frame :=
  { fr with branches := .ofReversed fr.pieces :: fr.branches, pieces := [] }

/-- The frame's own piece. -/
def piece (fr : Frame) : Piece := fr.enclosure.wrap (.anyOf (.ofReversed fr.pieces :: fr.branches))

end Frame

structure Reader where
  groups : Groups
  top : Frame
  below : List Frame

namespace Reader

def start (f : Flags) : Reader := ⟨.none, .new .whole f, []⟩

def push (r : Reader) (fr : Frame) : Reader := { r with top := fr, below := r.top :: r.below }

/-- Closes the frames of flags that end with the group around them. -/
def closeSettings (top : Frame) : List Frame → Frame × List Frame
  | [] => (top, [])
  | fr :: below =>
    if top.enclosure = .setting then closeSettings (fr.add top.piece) below
    else (top, fr :: below)

def step (r : Reader) : Token → Except Fault Reader
  | .skipped => .ok r
  | .piece p => .ok { r with top := r.top.add (.ofPattern p) }
  | .loop least most greed =>
    match r.top.pieces with
    | [] => .error .nothingToRepeat
    | p :: pieces =>
      (p.looped least most greed).map fun q =>
        { r with top := { r.top with pieces := q :: pieces } }
  | .capture name =>
    .ok { r.push (.new (.capture (r.groups.count + 1)) r.top.flags) with
      groups := r.groups.add name }
  | .opening o =>
    let inBehind := match o with
      | .behind _ => true
      | _ => r.top.flags.behind
    .ok (r.push (.new (.opening o) { r.top.flags with behind := inBehind }))
  | .choice groups level => .ok (r.push (.new (.choice groups level) r.top.flags))
  | .flagged f => .ok (r.push (.new .flags f))
  | .setting f => .ok (r.push (.new .setting f))
  | .bar => .ok { r with top := r.top.nextBranch }
  | .close =>
    match closeSettings r.top r.below with
    | (_, []) => .error .unopenedGroup
    | (top, fr :: below) =>
      let groups := match top.enclosure with
        | .capture _ => r.groups.close
        | _ => r.groups
      .ok ⟨groups, fr.add top.piece, below⟩

def run (r : Reader) : List Char → Except Fault Reader
  | [] => .ok r
  | c :: s =>
    match _h : Token.next r.top.flags r.groups c s with
    | .error e => .error e
    | .ok (t, rest) =>
      match r.step t with
      | .error e => .error e
      | .ok r => r.run rest
termination_by s => s.length
decreasing_by exact Nat.lt_succ_of_le (Token.next_length ‹_›)

/-- The whole pattern, if no group is open. -/
def finish (r : Reader) : Except Fault (Pattern Reference × Groups) :=
  match closeSettings r.top r.below with
  | (top, []) => .ok (top.piece.pattern, r.groups)
  | _ => .error .unclosedGroup

end Reader

/-- The tree of a pattern text and the groups that it opens. -/
def parse (f : Flags) (s : String) : Except Fault (Pattern Reference × Groups) := do
  (← (Reader.start f).run s.toList).finish

end ScopeLexer.Regex
