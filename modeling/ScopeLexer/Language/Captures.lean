/-! What a rule makes of its groups: a target for each number that has one, in increasing order. -/

namespace ScopeLexer.Language

/-- A group becomes a scope of some name, or is handed over to the language of some name. -/
inductive Target
  | scope (name : String)
  | language (name : String)
  deriving DecidableEq, Repr

/-- Targets by group number; group zero is the whole match. -/
structure Captures where
  entries : List (Nat × Target)
  sorted : entries.Pairwise (·.1 < ·.1)
  deriving DecidableEq

namespace Captures

def empty : Captures := ⟨[], .nil⟩

def get? (c : Captures) (i : Nat) : Option Target := c.entries.lookup i

/-- The largest number that has a target. -/
def largest? (c : Captures) : Option Nat := c.entries.getLast?.map (·.1)

def insertEntry (i : Nat) (t : Target) : List (Nat × Target) → List (Nat × Target)
  | [] => [(i, t)]
  | (j, u) :: rest =>
    if i < j then (i, t) :: (j, u) :: rest
    else if i = j then (i, t) :: rest
    else (j, u) :: insertEntry i t rest

theorem mem_insertEntry {i : Nat} {t : Target} {es : List (Nat × Target)} {e : Nat × Target}
    (h : e ∈ insertEntry i t es) : e = (i, t) ∨ e ∈ es := by
  induction es with
  | nil => simpa [insertEntry] using h
  | cons f es ih =>
    simp only [insertEntry] at h
    split at h
    · simpa using h
    · split at h
      · simp at h
        exact h.imp_right fun h => List.mem_cons_of_mem _ h
      · rcases List.mem_cons.1 h with rfl | h
        · simp
        · exact (ih h).imp_right fun h => List.mem_cons_of_mem _ h

theorem insertEntry_sorted (i : Nat) (t : Target) {es : List (Nat × Target)}
    (h : es.Pairwise (·.1 < ·.1)) : (insertEntry i t es).Pairwise (·.1 < ·.1) := by
  induction es with
  | nil => simp [insertEntry]
  | cons f es ih =>
    obtain ⟨hf, hes⟩ := List.pairwise_cons.1 h
    simp only [insertEntry]
    split
    · next hi =>
      refine List.pairwise_cons.2 ⟨fun e he => ?_, h⟩
      rcases List.mem_cons.1 he with rfl | he
      · exact hi
      · exact Nat.lt_trans hi (hf e he)
    · split
      · next hi =>
        subst hi
        exact List.pairwise_cons.2 ⟨hf, hes⟩
      · refine List.pairwise_cons.2 ⟨fun e he => ?_, ih hes⟩
        rcases mem_insertEntry he with rfl | he
        · show f.1 < i
          omega
        · exact hf e he

/-- Gives group `i` a target in place of any it had. -/
def insert (c : Captures) (i : Nat) (t : Target) : Captures :=
  ⟨insertEntry i t c.entries, insertEntry_sorted i t c.sorted⟩

/-- Of several targets for a group the last one counts. -/
def ofList (es : List (Nat × Target)) : Captures :=
  es.foldl (fun c (i, t) => c.insert i t) empty

end Captures

end ScopeLexer.Language
