import ScopeLexer.Scope.Basic

/-! Forests from scopes in the order of their captures. The scopes are sorted by start, keeping the
order of equal starts, and put one by one into an arena, each under the nearest scope that contains
it on the way up from the scope put in before. A scope that already has children keeps them. -/

namespace ScopeLexer.Scope

/-- A scope in an arena; its parent and children are positions there. -/
structure Node where
  name : String
  start : Nat
  length : Nat
  parent : Option Nat
  children : List Nat
  deriving Repr

def Node.contains (n : Node) (start length : Nat) : Bool :=
  n.start ≤ start && start + length ≤ n.start + n.length

abbrev Arena := Array Node

namespace Arena

/-- Makes `child` the last child of `parent`. -/
def link (a : Arena) (parent child : Nat) : Arena :=
  a.modify parent fun n => { n with children := n.children ++ [child] }

mutual

/-- Adds a scope and everything in it, each scope before its children. -/
def insert (a : Arena) (parent : Option Nat) : Scope → Arena
  | ⟨name, start, length, children⟩ =>
    insertAll (a.push ⟨name, start, length, parent, []⟩) a.size children

def insertAll (a : Arena) (parent : Nat) : List Scope → Arena
  | [] => a
  | s :: ss => insertAll ((insert a (some parent) s).link parent a.size) parent ss

end

/-- The first node that contains a span on the way up from `cursor`. -/
def holder? (a : Arena) (start length cursor : Nat) : Option Nat :=
  match a[cursor]? with
  | none => none
  | some n =>
    if n.contains start length then some cursor
    else
      match n.parent with
      | none => none
      | some p => if p < cursor then holder? a start length p else none
termination_by cursor

/-- Takes the finished scopes at some positions out of a store. -/
def takeAll (done : Array (Option Scope)) : List Nat → List Scope × Array (Option Scope)
  | [] => ([], done)
  | i :: is =>
    let (ss, rest) := takeAll (done.setIfInBounds i none) is
    ((done[i]?.join).toList ++ ss, rest)

/-- Finishes the nodes before position `i`, the last one first, so that children are ready before
their parents. -/
def finish (a : Arena) : Nat → Array (Option Scope) → Array (Option Scope)
  | 0, done => done
  | i + 1, done =>
    match a[i]? with
    | none => finish a i done
    | some n =>
      let (children, rest) := takeAll done n.children
      finish a i (rest.setIfInBounds i (some ⟨n.name, n.start, n.length, children⟩))

/-- The trees under some roots. -/
def toForest (a : Arena) (roots : List Nat) : List Scope :=
  (takeAll (a.finish a.size (Array.replicate a.size none)) roots).1

end Arena

/-- A forest being built: its arena, its roots, and where the last scope was put. -/
structure Builder where
  arena : Arena
  roots : List Nat
  cursor : Option Nat

namespace Builder

def empty : Builder := ⟨#[], [], none⟩

def add (b : Builder) (s : Scope) : Builder :=
  let holder := b.cursor.bind (b.arena.holder? s.start s.length)
  let arena := b.arena.insert holder s
  match holder with
  | some p => ⟨arena.link p b.arena.size, b.roots, some b.arena.size⟩
  | none => ⟨arena, b.roots ++ [b.arena.size], some b.arena.size⟩

end Builder

/-- By start, keeping the order of equal starts. -/
def byStart (ss : List Scope) : List Scope := ss.mergeSort fun s t => s.start ≤ t.start

/-- The forest of scopes given in the order of their captures. -/
def forest (ss : List Scope) : List Scope :=
  let b := (byStart ss).foldl Builder.add .empty
  b.arena.toForest b.roots

/-- The forest of flat captures `(start, length, name)`. -/
def forestOf (entries : List (Nat × Nat × String)) : List Scope :=
  forest (entries.map fun (start, length, name) => leaf name start length)

end ScopeLexer.Scope
