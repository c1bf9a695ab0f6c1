import ScopeLexer.Language.Lexer

/-! Faults of definitions. Whatever keeps a definition from having a lexer, the error says which
definition it is: the faults of its rules, of its wrapped rules and of the joined pattern alike. -/

namespace ScopeLexer

/-- The language that an error blames, if its definition is at fault. -/
def Error.grammar? : Error → Option String
  | invalidGrammar grammar _ | malformedRegex grammar _ _ => some grammar
  | _ => none

/-- A step fails only with errors that blame a language. -/
def Blames {α : Type} (grammar : String) (x : Except Error α) : Prop :=
  ∀ e, x = .error e → e.grammar? = some grammar

namespace Blames

variable {α β : Type} {grammar : String}

theorem ok (a : α) : Blames grammar (.ok a) := fun _ h => nomatch h

theorem bind {x : Except Error α} {f : α → Except Error β} (hx : Blames grammar x)
    (hf : ∀ a, Blames grammar (f a)) : Blames grammar (x >>= f) := by
  intro e h
  cases x with
  | error e' =>
    obtain rfl : e' = e := Except.error.inj h
    exact hx _ rfl
  | ok a => exact hf a e h

theorem ensure {p : Prop} [Decidable p] {e : Error} (h : e.grammar? = some grammar) :
    Blames grammar (ensure p e) := by
  intro e' he
  unfold ScopeLexer.ensure at he
  split at he
  · cases he
  · exact Except.error.inj he ▸ h

theorem mapError {ε : Type} {x : Except ε α} {f : ε → Error}
    (h : ∀ e, (f e).grammar? = some grammar) : Blames grammar (x.mapError f) := by
  intro e he
  cases x with
  | error e' => exact Except.error.inj he ▸ h e'
  | ok a => cases he

end Blames

namespace Language

variable [Regex.Engine]

theorem Rule.groupCount_blames (r : Rule) (grammar : String) (index : Nat) :
    Blames grammar (r.groupCount grammar index) :=
  .bind (.mapError fun _ => rfl) fun _ => .bind (.ensure rfl) fun _ => .bind (.ensure rfl) fun _ =>
    .bind (.mapError fun _ => rfl) fun _ => .bind (.ensure rfl) fun _ => .ok _

theorem groupCounts_blames (grammar : String) (index : Nat) (rules : List Rule) :
    Blames grammar (groupCounts grammar index rules) := by
  induction rules generalizing index with
  | nil => exact .ok _
  | cons r rules ih =>
    exact .bind (r.groupCount_blames grammar index) fun _ => .bind (ih (index + 1)) fun _ => .ok _

/-- The error of a definition without a lexer blames its id. -/
theorem Lexer.compile_blames (d : Definition) : Blames d.id (Lexer.compile d) :=
  .bind (.ensure rfl) fun _ => .bind (.ensure rfl) fun _ => .bind (.ensure rfl) fun _ =>
    .bind (groupCounts_blames d.id 0 d.rules) fun _ => .bind (.mapError fun _ => rfl) fun _ =>
      .bind (.ensure rfl) fun _ => .ok _

end Language

end ScopeLexer
