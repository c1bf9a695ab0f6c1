import ScopeLexer.Language.Lexer

/-! What building a lexer comes through. Every rule is accepted alone and in its wrapping, and refers
to no group by its number; then the joined pattern is accepted. -/

namespace ScopeLexer.Language

open Regex

variable [Engine]

/-- A rule that passed its checks. -/
structure Rule.Checked (r : Rule) : Prop where
  alone : ∃ x, Engine.compile false r.pattern = .ok x
  unnumbered : hasNumberedReference r.pattern.toList = false
  wrapped : ∃ x, Engine.compile true (wrapped r.pattern) = .ok x

/-- What counting the groups of a rule comes through. -/
theorem Rule.groupCount_cases {r : Rule} {grammar : String} {index n : Nat}
    (h : r.groupCount grammar index = .ok n) :
    hasNumberedReference r.pattern.toList = false ∧
    (∃ alone, Engine.compile false r.pattern = .ok alone ∧
      r.captures.largest?.getD 0 ≤ alone.groups ∧ alone.groups = n) ∧
    ∃ joined, Engine.compile true (Language.wrapped r.pattern) = .ok joined := by
  obtain ⟨alone, ha, h⟩ := bind_eq_ok.1 h
  obtain ⟨_, hn, h⟩ := bind_eq_ok.1 h
  obtain ⟨_, hlargest, h⟩ := bind_eq_ok.1 h
  obtain ⟨joined, hj, h⟩ := bind_eq_ok.1 h
  obtain ⟨_, _, h⟩ := bind_eq_ok.1 h
  have hn := ensure_eq_ok.1 hn
  exact ⟨Bool.eq_false_iff.2 fun e => by simp [e] at hn,
    ⟨alone, mapError_eq_ok.1 ha, ensure_eq_ok.1 hlargest, pure_eq_ok.1 h⟩,
    joined, mapError_eq_ok.1 hj⟩

theorem Rule.groupCount_checked {r : Rule} {grammar : String} {index n : Nat}
    (h : r.groupCount grammar index = .ok n) : r.Checked := by
  obtain ⟨hn, ⟨alone, ha, -⟩, hj⟩ := groupCount_cases h
  exact ⟨⟨alone, ha⟩, hn, hj⟩

theorem groupCounts_checked {grammar : String} {index : Nat} {rules : List Rule} {ns : List Nat}
    (h : groupCounts grammar index rules = .ok ns) : ∀ r ∈ rules, r.Checked := by
  induction rules generalizing index ns with
  | nil => exact fun r hr => nomatch hr
  | cons r rules ih =>
    obtain ⟨n, hn, h⟩ := bind_eq_ok.1 h
    obtain ⟨ns, hns, h⟩ := bind_eq_ok.1 h
    intro s hs
    rcases List.mem_cons.1 hs with rfl | hs
    · exact Rule.groupCount_checked hn
    · exact ih hns s hs

/-- What a lexer is made of. -/
theorem Lexer.compile_parts {d : Definition} {l : Lexer} (h : Lexer.compile d = .ok l) :
    l.id = d.id ∧ d.rules ≠ [] ∧ Engine.compile true (joined d.rules) = .ok l.regex ∧
      l.pattern = joined d.rules ∧ ∃ counts, groupCounts d.id 0 d.rules = .ok counts ∧
        l.targets = table d.rules counts ∧ l.targets.length = l.regex.groups + 1 := by
  obtain ⟨_, _, h⟩ := bind_eq_ok.1 h
  obtain ⟨_, _, h⟩ := bind_eq_ok.1 h
  obtain ⟨_, hne, h⟩ := bind_eq_ok.1 h
  obtain ⟨counts, hcounts, h⟩ := bind_eq_ok.1 h
  obtain ⟨x, hx, h⟩ := bind_eq_ok.1 h
  obtain ⟨_, hlength, h⟩ := bind_eq_ok.1 h
  obtain rfl := pure_eq_ok.1 h
  exact ⟨rfl, ensure_eq_ok.1 hne, mapError_eq_ok.1 hx, rfl, counts, hcounts, rfl,
    (ensure_eq_ok.1 hlength).symm⟩

theorem Lexer.compile_cases {d : Definition} {l : Lexer} (h : Lexer.compile d = .ok l) :
    d.rules ≠ [] ∧ (∀ r ∈ d.rules, r.Checked) ∧
      Engine.compile true (joined d.rules) = .ok l.regex := by
  obtain ⟨-, hne, hregex, -, _, hcounts, -⟩ := compile_parts h
  exact ⟨hne, groupCounts_checked hcounts, hregex⟩

end ScopeLexer.Language
