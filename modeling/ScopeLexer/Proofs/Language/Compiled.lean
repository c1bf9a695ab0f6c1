import Mathlib.Data.List.Forall2
import ScopeLexer.Proofs.Language.Checked
import ScopeLexer.Proofs.Language.Resolved
import ScopeLexer.Proofs.Regex.Forward
import ScopeLexer.Proofs.Regex.Settling

/-! The joined pattern of a lexer is made of what its rules are alone. Each rule's pattern is read,
its calls are resolved and its look-behinds are settled, with the same result in the joined pattern
as alone, unless a rule means groups of other rules: by a back-reference or a condition with a name
that an earlier rule gives to a group too, or by a condition with a number, which counts from the
first group of the joined pattern there. -/

namespace ScopeLexer.Language

open Regex

/-- Somewhere in a pattern a back-reference or a condition gives the name `n`. -/
def RefersTo (n : WrittenName) (pattern : String) : Prop :=
  Refers n (Reader.start plainFlags) pattern.toList

/-- A pattern gives a name to a group. -/
def Names (w : String) (pattern : String) : Prop :=
  ∃ p g i, parse plainFlags pattern = .ok (p, g) ∧ (w, i) ∈ g.names

/-- Every rule means its own groups: none refers to a name that an earlier rule gives to a group,
and none to a group by its number. -/
structure OwnGroups (rules : List Rule) : Prop where
  names : rules.Pairwise fun r r' => ∀ w, RefersTo (.word w) r'.pattern → ¬Names w r.pattern
  numbers : ∀ r ∈ rules, ∀ k, ¬RefersTo (.number k) r.pattern

theorem refersTo_iff {n : WrittenName} {pattern : String} : RefersTo n pattern ↔
    n ∈ references (Reader.start plainFlags) pattern.toList :=
  ⟨Refers.mem, refers_of_mem⟩

/-- The names that a pattern gives to its groups. -/
def groupNames (pattern : String) : List String :=
  match parse plainFlags pattern with
  | .ok (_, g) => g.names.map (·.1)
  | .error _ => []

theorem names_iff {w pattern : String} : Names w pattern ↔ w ∈ groupNames pattern := by
  unfold groupNames Names
  cases parse plainFlags pattern with
  | error e => simp
  | ok x => simp [Prod.ext_iff]

/-- A name that is a number; signed ones count from where they stand. -/
def isNumber : WrittenName → Bool
  | .number _ => true
  | _ => false

instance (rules : List Rule) : Decidable (OwnGroups rules) :=
  decidable_of_iff
    ((rules.Pairwise fun r r' => ∀ w ∈ groupNames r.pattern,
        .word w ∉ references (Reader.start plainFlags) r'.pattern.toList) ∧
      ∀ r ∈ rules, ∀ n ∈ references (Reader.start plainFlags) r.pattern.toList, !isNumber n) <| by
    constructor
    · rintro ⟨hnames, hnumbers⟩
      refine ⟨hnames.imp fun h w hw hname => h w (names_iff.1 hname) (refersTo_iff.1 hw),
        fun r hr k hk => ?_⟩
      simpa [isNumber] using hnumbers r hr _ (refersTo_iff.1 hk)
    · intro h
      refine ⟨h.names.imp fun h w hname hw => h w (refersTo_iff.2 hw) (names_iff.2 hname),
        fun r hr n hn => ?_⟩
      cases n with
      | number k => exact absurd (refersTo_iff.2 hn) (h.numbers r hr k)
      | _ => rfl

theorem OwnGroups.apart {rules : List Rule} (h : OwnGroups rules) :
    ∀ r ∈ rules, Apart [] (Reader.start plainFlags) r.pattern.toList := by
  intro r hr n hn
  cases n with
  | word w => simp [Movable]
  | number k => exact h.numbers r hr k hn
  | _ => trivial

end ScopeLexer.Language
