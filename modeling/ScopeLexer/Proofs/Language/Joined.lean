import ScopeLexer.Proofs.Language.Reading
import ScopeLexer.Proofs.Regex.Embedding

/-! The joined pattern as it is read. A reader goes through the pattern of a rule inside its wrapping
as it goes through it alone, comes to the end of it where the wrapping closes, and leaves no flags
behind. So the joined pattern is the alternation of the rules' own patterns, each in a group of its
own, with the groups counted through. -/

namespace ScopeLexer.Language

open Regex

/-! ### Runs -/

/-- Somewhere in the text that a reader goes through, a back-reference or a condition gives the name
`n`. -/
inductive Refers (n : WrittenName) : Reader → List Char → Prop
  | here {r c s} : writtenName? c s = some n → Refers n r (c :: s)
  | later {r r' c s t rest} : Token.next r.top.flags r.groups c s = .ok (t, rest) →
      r.step t = .ok r' → Refers n r' rest → Refers n r (c :: s)

/-- All names that back-references and conditions give in the text that a reader goes through. -/
def references (r : Reader) : List Char → List WrittenName
  | [] => []
  | c :: s =>
    (writtenName? c s).toList ++
      match _h : Token.next r.top.flags r.groups c s with
      | .error _ => []
      | .ok (t, rest) =>
        match r.step t with
        | .error _ => []
        | .ok r => references r rest
termination_by s => s.length
decreasing_by exact Nat.lt_succ_of_le (Token.next_length ‹_›)

theorem Refers.mem {n : WrittenName} {r : Reader} {s : List Char} (h : Refers n r s) :
    n ∈ references r s := by
  induction h with
  | here hn => simp [references, hn]
  | @later r r' c s t rest ht hs _ ih =>
    rw [references]
    refine List.mem_append_right _ ?_
    split
    · next e => simp [ht] at e
    · next e =>
      obtain ⟨rfl, rfl⟩ := Prod.mk.inj (Except.ok.inj (ht.symm.trans e))
      rw [hs]
      exact ih

theorem refers_of_mem {n : WrittenName} {r : Reader} {s : List Char} (h : n ∈ references r s) :
    Refers n r s := by
  fun_induction references r s with
  | case1 => simp at h
  | case2 r c s ih =>
    rcases List.mem_append.1 h with h | h
    · exact .here (by simpa using h)
    · split at h
      · simp at h
      · next t rest ht =>
        split at h
        · simp at h
        · next r' hs => exact .later ht hs (ih t rest ht r' h)

/-- Every name that a text gives means the same behind groups with the names `before`. -/
def Apart (before : List (String × Nat)) (r : Reader) (s : List Char) : Prop :=
  ∀ n, Refers n r s → Movable before n

/-- The flags that a pattern alone and a wrapped one start with. -/
def plainFlags : Flags := ⟨false, false, false, false⟩

/-- The flags of the joined pattern outside of its rules. -/
def joinedFlags : Flags := ⟨false, false, true, false⟩

/-- The branch of a rule whose pattern was read alone as `p`. -/
def branch (b : Nat) (p : Pattern Reference) : Piece := ⟨(Pattern.group b (p.move b)).isolated, true⟩

/-- A reader between two rules. -/
def between (count : Nat) (names : List (String × Nat)) (bs ps : List Piece) : Reader :=
  ⟨⟨count, [], names⟩, ⟨.whole, joinedFlags, bs, ps⟩, []⟩

/-- What is open inside the group of a rule. -/
def around (bs ps : List Piece) : List Frame :=
  [.new .flags plainFlags, ⟨.whole, joinedFlags, bs, ps⟩]

def branches : (count : Nat) → List (Pattern Reference × Groups) → List Piece
  | _, [] => []
  | count, (p, g) :: ts => branch (count + 1) p :: branches (count + 1 + g.count) ts

end ScopeLexer.Language
