import Mathlib.Data.List.Forall2
import ScopeLexer.Proofs.Language.Faults
import ScopeLexer.Proofs.Language.Table

/-! What becomes of a definition. It gives a lexer if and only if nothing is wrong with it, and else
the error is that of the first fault: the id, the name and the lack of rules come before the rules,
each rule with all its checks before the next one, and all rules before the joined pattern. What
stands behind a faulty rule therefore makes no difference. -/

namespace ScopeLexer

namespace Language

open Regex

theorem Captures.largest_le {c : Captures} {n : Nat} :
    c.largest?.getD 0 ≤ n ↔ ∀ e ∈ c.entries, e.1 ≤ n := by
  constructor
  · exact fun h e he => Nat.le_trans (le_largest he) h
  · intro h
    rw [largest?]
    cases hlast : c.entries.getLast? with
    | none => exact Nat.zero_le n
    | some e => exact h e (List.mem_of_getLast? hlast)

theorem Captures.exists_largest {c : Captures} {n : Nat} (h : n < c.largest?.getD 0) :
    ∃ t, (c.largest?.getD 0, t) ∈ c.entries := by
  rw [largest?] at h ⊢
  cases hlast : c.entries.getLast? with
  | none =>
    rw [hlast] at h
    cases h
  | some e => exact ⟨e.2, List.mem_of_getLast? hlast⟩

section

variable [Engine]

/-! ### Rules -/

/-- A rule with `groups` groups that comes through all checks: alone, in its targets, wrapped. -/
structure Rule.Valid (r : Rule) (groups : Nat) : Prop where
  alone : ∃ x, Engine.compile false r.pattern = .ok x ∧ x.groups = groups
  unnumbered : hasNumberedReference r.pattern.toList = false
  targets : ∀ e ∈ r.captures.entries, e.1 ≤ groups
  wrapped : ∃ x, Engine.compile true (wrapped r.pattern) = .ok x ∧ x.groups = groups + 1

/-- What is wrong first with a rule, the one numbered `index` of the language `grammar`. -/
inductive Rule.FirstFault (r : Rule) (grammar : String) (index : Nat) : Error → Prop
  | refused {f} (alone : Engine.compile false r.pattern = .error f) :
    FirstFault r grammar index (.malformedRegex grammar (some index) (.refused f))
  | numbered {x} (alone : Engine.compile false r.pattern = .ok x)
    (numbered : hasNumberedReference r.pattern.toList = true) :
    FirstFault r grammar index (.invalidGrammar grammar (.numberedReference index))
  | missing {x o t} (alone : Engine.compile false r.pattern = .ok x)
    (unnumbered : hasNumberedReference r.pattern.toList = false)
    (target : (o, t) ∈ r.captures.entries) (largest : ∀ e ∈ r.captures.entries, e.1 ≤ o)
    (missing : x.groups < o) :
    FirstFault r grammar index (.invalidGrammar grammar (.missingGroup index o x.groups))
  | unwrapped {x f} (alone : Engine.compile false r.pattern = .ok x)
    (unnumbered : hasNumberedReference r.pattern.toList = false)
    (targets : ∀ e ∈ r.captures.entries, e.1 ≤ x.groups)
    (wrapped : Engine.compile true (wrapped r.pattern) = .error f) :
    FirstFault r grammar index (.malformedRegex grammar (some index) (.refused f))
  | leaking {x y} (alone : Engine.compile false r.pattern = .ok x)
    (unnumbered : hasNumberedReference r.pattern.toList = false)
    (targets : ∀ e ∈ r.captures.entries, e.1 ≤ x.groups)
    (wrapped : Engine.compile true (wrapped r.pattern) = .ok y) (leaks : y.groups ≠ x.groups + 1) :
    FirstFault r grammar index
      (.malformedRegex grammar (some index) (.leaking y.groups (x.groups + 1)))

variable {r : Rule} {grammar : String} {index n : Nat} {e : Error}

theorem Rule.groupCount_eq_ok : r.groupCount grammar index = .ok n ↔ r.Valid n := by
  simp only [groupCount, bind_eq_ok, mapError_eq_ok, ensure_eq_ok, Bool.not_eq_true', pure_eq_ok,
    Captures.largest_le]
  constructor
  · rintro ⟨x, halone, -, hunnumbered, -, htargets, y, hwrapped, -, hgroups, rfl⟩
    exact ⟨⟨x, halone, rfl⟩, hunnumbered, htargets, y, hwrapped, hgroups⟩
  · rintro ⟨⟨x, halone, rfl⟩, hunnumbered, htargets, y, hwrapped, hgroups⟩
    exact ⟨x, halone, (), hunnumbered, (), htargets, y, hwrapped, (), hgroups, rfl⟩

theorem Rule.firstFault_of_groupCount (h : r.groupCount grammar index = .error e) :
    r.FirstFault grammar index e := by
  rcases bind_eq_error.1 h with hfail | ⟨x, halone, h⟩
  · obtain ⟨f, halone, rfl⟩ := mapError_eq_error.1 hfail
    exact .refused halone
  have halone := mapError_eq_ok.1 halone
  rcases bind_eq_error.1 h with hfail | ⟨_, hunnumbered, h⟩
  · obtain ⟨hnumbered, rfl⟩ := ensure_eq_error.1 hfail
    exact .numbered halone (by simpa using hnumbered)
  have hunnumbered : hasNumberedReference r.pattern.toList = false := by
    simpa using ensure_eq_ok.1 hunnumbered
  rcases bind_eq_error.1 h with hfail | ⟨_, htargets, h⟩
  · obtain ⟨hmissing, rfl⟩ := ensure_eq_error.1 hfail
    have hmissing := Nat.lt_of_not_le hmissing
    obtain ⟨t, ht⟩ := Captures.exists_largest hmissing
    exact .missing halone hunnumbered ht (fun _ he => Captures.le_largest he) hmissing
  have htargets := Captures.largest_le.1 (ensure_eq_ok.1 htargets)
  rcases bind_eq_error.1 h with hfail | ⟨y, hwrapped, h⟩
  · obtain ⟨f, hwrapped, rfl⟩ := mapError_eq_error.1 hfail
    exact .unwrapped halone hunnumbered htargets hwrapped
  have hwrapped := mapError_eq_ok.1 hwrapped
  rcases bind_eq_error.1 h with hfail | ⟨_, _, h⟩
  · obtain ⟨hleaks, rfl⟩ := ensure_eq_error.1 hfail
    exact .leaking halone hunnumbered htargets hwrapped hleaks
  · cases h

theorem Rule.FirstFault.groupCount (h : r.FirstFault grammar index e) :
    r.groupCount grammar index = .error e := by
  simp only [Rule.groupCount, bind_eq_error, mapError_eq_error, mapError_eq_ok, ensure_eq_error,
    ensure_eq_ok, Bool.not_eq_true', Bool.not_eq_false]
  cases h with
  | refused halone => exact .inl ⟨_, halone, rfl⟩
  | numbered halone hnumbered => exact .inr ⟨_, halone, .inl ⟨hnumbered, rfl⟩⟩
  | missing halone hunnumbered htarget hlargest hmissing =>
    have heq := Nat.le_antisymm (Captures.largest_le.2 hlargest) (Captures.le_largest htarget)
    rw [heq]
    exact .inr ⟨_, halone, .inr ⟨(), hunnumbered, .inl ⟨Nat.not_le_of_lt hmissing, rfl⟩⟩⟩
  | unwrapped halone hunnumbered htargets hwrapped =>
    exact .inr ⟨_, halone, .inr ⟨(), hunnumbered, .inr ⟨(), Captures.largest_le.2 htargets,
      .inl ⟨_, hwrapped, rfl⟩⟩⟩⟩
  | leaking halone hunnumbered htargets hwrapped hleaks =>
    exact .inr ⟨_, halone, .inr ⟨(), hunnumbered, .inr ⟨(), Captures.largest_le.2 htargets,
      .inr ⟨_, hwrapped, .inl ⟨hleaks, rfl⟩⟩⟩⟩⟩

theorem Rule.groupCount_eq_error :
    r.groupCount grammar index = .error e ↔ r.FirstFault grammar index e :=
  ⟨firstFault_of_groupCount, FirstFault.groupCount⟩

/-! ### Rules one after the other -/

variable {rules : List Rule} {ns : List Nat}

theorem groupCounts_eq_ok :
    groupCounts grammar index rules = .ok ns ↔ List.Forall₂ Rule.Valid rules ns := by
  induction rules generalizing index ns with
  | nil => simp [groupCounts, eq_comm]
  | cons r rules ih =>
    simp only [groupCounts, bind_eq_ok, Rule.groupCount_eq_ok, ih, pure_eq_ok]
    constructor
    · rintro ⟨n, hn, ns, hns, rfl⟩
      exact .cons hn hns
    · rintro (_ | ⟨hn, hns⟩)
      exact ⟨_, hn, _, hns, rfl⟩

/-- The fault is that of the first rule that has one. -/
theorem groupCounts_eq_error : groupCounts grammar index rules = .error e ↔
    ∃ before r after ns, rules = before ++ r :: after ∧ List.Forall₂ Rule.Valid before ns ∧
      r.FirstFault grammar (index + before.length) e := by
  induction rules generalizing index with
  | nil => simp [groupCounts]
  | cons r rules ih =>
    simp only [groupCounts, bind_eq_error, Rule.groupCount_eq_ok, Rule.groupCount_eq_error, ih]
    constructor
    · rintro (h | ⟨n, hn, ⟨before, r', after, ns, rfl, hvalid, h⟩ | ⟨ns, -, h⟩⟩)
      · exact ⟨[], r, rules, [], rfl, .nil, h⟩
      · refine ⟨r :: before, r', after, n :: ns, rfl, .cons hn hvalid, ?_⟩
        rwa [List.length_cons, Nat.add_comm before.length, ← Nat.add_assoc]
      · cases h
    · rintro ⟨_ | ⟨r', before⟩, s, after, ns, heq, hvalid, h⟩
      · obtain ⟨rfl, rfl⟩ := List.cons.inj heq
        exact .inl h
      · obtain ⟨rfl, rfl⟩ := List.cons.inj heq
        obtain _ | ⟨hn, hns⟩ := hvalid
        refine .inr ⟨_, hn, .inl ⟨before, s, after, _, rfl, hns, ?_⟩⟩
        rwa [List.length_cons, Nat.add_comm before.length, ← Nat.add_assoc] at h

/-- What stands behind a faulty rule is not looked at. -/
theorem groupCounts_of_not_valid (hr : ∀ n, ¬r.Valid n) (before after after' : List Rule) :
    ∃ e, groupCounts grammar index (before ++ r :: after) = .error e ∧
      groupCounts grammar index (before ++ r :: after') = .error e := by
  induction before generalizing index with
  | nil =>
    cases h : r.groupCount grammar index with
    | ok n => exact absurd (Rule.groupCount_eq_ok.1 h) (hr n)
    | error e => exact ⟨e, bind_eq_error.2 (.inl h), bind_eq_error.2 (.inl h)⟩
  | cons s before ih =>
    cases h : s.groupCount grammar index with
    | error e => exact ⟨e, bind_eq_error.2 (.inl h), bind_eq_error.2 (.inl h)⟩
    | ok n =>
      obtain ⟨e, he, he'⟩ := @ih (index + 1)
      exact ⟨e, bind_eq_error.2 (.inr ⟨n, h, bind_eq_error.2 (.inl he)⟩),
        bind_eq_error.2 (.inr ⟨n, h, bind_eq_error.2 (.inl he')⟩)⟩

/-! ### Definitions -/

/-- A definition with nothing wrong with it: every rule comes through its checks, and the joined
pattern has the groups of all rules, with one around each. -/
structure Definition.Valid (d : Definition) : Prop where
  id : Unicode.isBlankText d.id = false
  name : Unicode.isBlankText d.name = false
  rules : d.rules ≠ []
  joined : ∃ counts, List.Forall₂ Rule.Valid d.rules counts ∧
    ∃ x, Engine.compile true (Lexer.joined d.rules) = .ok x ∧ x.groups = (counts.map (1 + ·)).sum

/-- What is wrong first with a definition. -/
inductive Definition.FirstFault (d : Definition) : Error → Prop
  | id (blank : Unicode.isBlankText d.id = true) :
    FirstFault d (.invalidGrammar d.id .blankId)
  | name (id : Unicode.isBlankText d.id = false) (blank : Unicode.isBlankText d.name = true) :
    FirstFault d (.invalidGrammar d.id .blankName)
  | rules (id : Unicode.isBlankText d.id = false) (name : Unicode.isBlankText d.name = false)
    (none : d.rules = []) : FirstFault d (.invalidGrammar d.id .noRules)
  | rule {before r after counts e} (id : Unicode.isBlankText d.id = false)
    (name : Unicode.isBlankText d.name = false) (split : d.rules = before ++ r :: after)
    (valid : List.Forall₂ Rule.Valid before counts) (fault : r.FirstFault d.id before.length e) :
    FirstFault d e
  | refused {counts f} (id : Unicode.isBlankText d.id = false)
    (name : Unicode.isBlankText d.name = false) (rules : d.rules ≠ [])
    (valid : List.Forall₂ Rule.Valid d.rules counts)
    (joined : Engine.compile true (Lexer.joined d.rules) = .error f) :
    FirstFault d (.malformedRegex d.id none (.refused f))
  | miscounted {counts x} (id : Unicode.isBlankText d.id = false)
    (name : Unicode.isBlankText d.name = false) (rules : d.rules ≠ [])
    (valid : List.Forall₂ Rule.Valid d.rules counts)
    (joined : Engine.compile true (Lexer.joined d.rules) = .ok x)
    (groups : x.groups ≠ (counts.map (1 + ·)).sum) :
    FirstFault d (.malformedRegex d.id none (.miscounted x.groups (counts.map (1 + ·)).sum))

variable {d : Definition}

theorem Lexer.length_table (h : List.Forall₂ Rule.Valid rules ns) :
    (table rules ns).length = (ns.map (1 + ·)).sum + 1 := by
  induction h with
  | nil => rfl
  | @cons r n rules ns _ _ ih =>
    rw [table, List.length_cons] at ih ⊢
    rw [List.zipWith_cons_cons, List.flatten_cons, List.length_append, Rule.length_targets,
      List.map_cons, List.sum_cons]
    omega

theorem Lexer.compile_eq_ok : (∃ l, compile d = .ok l) ↔ d.Valid := by
  simp only [compile, bind_eq_ok, mapError_eq_ok, ensure_eq_ok, Bool.not_eq_true',
    groupCounts_eq_ok, pure_eq_ok]
  constructor
  · rintro ⟨l, -, hid, -, hname, -, hrules, counts, hcounts, x, hx, -, hgroups, -⟩
    rw [length_table hcounts] at hgroups
    exact ⟨hid, hname, hrules, counts, hcounts, x, hx,
      Nat.add_right_cancel hgroups⟩
  · rintro ⟨hid, hname, hrules, counts, hcounts, x, hx, hgroups⟩
    refine ⟨_, (), hid, (), hname, (), hrules, counts, hcounts, x, hx,
      (), ?_, rfl⟩
    rw [length_table hcounts, hgroups]

theorem Lexer.firstFault_of_compile {e : Error} (h : compile d = .error e) : d.FirstFault e := by
  rcases bind_eq_error.1 h with hfail | ⟨_, hid, h⟩
  · obtain ⟨hblank, rfl⟩ := ensure_eq_error.1 hfail
    exact .id (by simpa using hblank)
  have hid : Unicode.isBlankText d.id = false := by simpa using ensure_eq_ok.1 hid
  rcases bind_eq_error.1 h with hfail | ⟨_, hname, h⟩
  · obtain ⟨hblank, rfl⟩ := ensure_eq_error.1 hfail
    exact .name hid (by simpa using hblank)
  have hname : Unicode.isBlankText d.name = false := by simpa using ensure_eq_ok.1 hname
  rcases bind_eq_error.1 h with hfail | ⟨_, hrules, h⟩
  · obtain ⟨hnone, rfl⟩ := ensure_eq_error.1 hfail
    exact .rules hid hname (not_not.1 hnone)
  have hrules := ensure_eq_ok.1 hrules
  rcases bind_eq_error.1 h with hfail | ⟨counts, hcounts, h⟩
  · obtain ⟨before, r, after, ns, hsplit, hvalid, hfault⟩ := groupCounts_eq_error.1 hfail
    rw [Nat.zero_add] at hfault
    exact .rule hid hname hsplit hvalid hfault
  have hcounts := groupCounts_eq_ok.1 hcounts
  rcases bind_eq_error.1 h with hfail | ⟨x, hjoined, h⟩
  · obtain ⟨f, hjoined, rfl⟩ := mapError_eq_error.1 hfail
    exact .refused hid hname hrules hcounts hjoined
  have hjoined := mapError_eq_ok.1 hjoined
  rcases bind_eq_error.1 h with hfail | ⟨_, _, h⟩
  · obtain ⟨hgroups, rfl⟩ := ensure_eq_error.1 hfail
    rw [length_table hcounts, Nat.add_right_cancel_iff] at hgroups
    rw [length_table hcounts, Nat.add_sub_cancel]
    exact .miscounted hid hname hrules hcounts hjoined hgroups
  · cases h

theorem Definition.FirstFault.compile {e : Error} (h : d.FirstFault e) :
    Lexer.compile d = .error e := by
  simp only [Lexer.compile, bind_eq_error, mapError_eq_error, mapError_eq_ok, ensure_eq_error,
    ensure_eq_ok, Bool.not_eq_true', Bool.not_eq_false, groupCounts_eq_error, groupCounts_eq_ok]
  cases h with
  | id hblank => exact .inl ⟨hblank, rfl⟩
  | name hid hblank => exact .inr ⟨(), hid, .inl ⟨hblank, rfl⟩⟩
  | rules hid hname hnone =>
    exact .inr ⟨(), hid, .inr ⟨(), hname, .inl ⟨not_not.2 hnone, rfl⟩⟩⟩
  | rule hid hname hsplit hvalid hfault =>
    rw [← Nat.zero_add (List.length _)] at hfault
    exact .inr ⟨(), hid, .inr ⟨(), hname, .inr ⟨(), by simp [hsplit],
      .inl ⟨_, _, _, _, hsplit, hvalid, hfault⟩⟩⟩⟩
  | refused hid hname hrules hvalid hjoined =>
    exact .inr ⟨(), hid, .inr ⟨(), hname, .inr ⟨(), hrules,
      .inr ⟨_, hvalid, .inl ⟨_, hjoined, rfl⟩⟩⟩⟩⟩
  | @miscounted counts x hid hname hrules hvalid hjoined hgroups =>
    have hlength := Lexer.length_table hvalid
    have hcount : (Lexer.table d.rules counts).length - 1 = (counts.map (1 + ·)).sum := by
      rw [hlength, Nat.add_sub_cancel]
    have hne : ¬x.groups + 1 = (Lexer.table d.rules counts).length := by
      rwa [hlength, Nat.add_right_cancel_iff]
    rw [← hcount]
    exact .inr ⟨(), hid, .inr ⟨(), hname, .inr ⟨(), hrules,
      .inr ⟨_, hvalid, .inr ⟨_, hjoined, .inl ⟨hne, rfl⟩⟩⟩⟩⟩⟩

theorem Lexer.compile_eq_error {e : Error} : compile d = .error e ↔ d.FirstFault e :=
  ⟨firstFault_of_compile, Definition.FirstFault.compile⟩

/-- The rules behind a faulty one can be any. -/
theorem Lexer.compile_of_not_valid {before after after' : List Rule}
    (hd : d.rules = before ++ r :: after) (hr : ∀ n, ¬r.Valid n) :
    compile { d with rules := before ++ r :: after' } = compile d := by
  obtain ⟨e, he, he'⟩ := @groupCounts_of_not_valid _ r d.id 0 hr before after after'
  rw [compile, compile, hd, he, he']
  simp only [ne_eq, List.append_eq_nil_iff, List.cons_ne_nil, and_false]
  rfl

/-- A definition gives a lexer exactly if it is valid, and an error exactly if that is the error of
its first fault. The error blames the definition, and the rules behind a faulty one change
nothing. -/
theorem Lexer.compile_verdict (d : Definition) :
    ((∃ l, compile d = .ok l) ↔ d.Valid) ∧
    (∀ e, compile d = .error e ↔ d.FirstFault e) ∧
    (∀ e, compile d = .error e → e.grammar? = some d.id) ∧
    ∀ before r after after', d.rules = before ++ r :: after → (∀ n, ¬r.Valid n) →
      compile { d with rules := before ++ r :: after' } = compile d :=
  ⟨compile_eq_ok, fun _ => compile_eq_error, compile_blames d,
    fun _ _ _ _ => compile_of_not_valid⟩

end

/-- Gives a target to a second group, of which there is none. -/
def overreaching : Rule := ⟨"(b)", .ofList [(2, .scope "X")]⟩

/-- Of its two faulty rules the last one is no pattern at all. -/
def twiceFaulty : Definition := ⟨"g", "G", .names [], [⟨"a", .empty⟩, overreaching, ⟨"(", .empty⟩]⟩

/-- The first fault is told whatever stands behind it. -/
theorem Lexer.compile_verdict_twice :
    ¬twiceFaulty.Valid ∧
    twiceFaulty.FirstFault (.invalidGrammar "g" (.missingGroup 1 2 1)) ∧
    ∀ after, compile { twiceFaulty with rules := [⟨"a", .empty⟩, overreaching] ++ after } =
      .error (.invalidGrammar "g" (.missingGroup 1 2 1)) := by
  obtain ⟨hvalid, hfault, -, hafter⟩ := compile_verdict twiceFaulty
  have hcompile : compile twiceFaulty = .error (.invalidGrammar "g" (.missingGroup 1 2 1)) := by
    apply map_eq_error (f := fun _ => ()).1
    decide +kernel
  have hcount : overreaching.groupCount "g" 1 =
      .error (.invalidGrammar "g" (.missingGroup 1 2 1)) := by
    decide +kernel
  refine ⟨fun h => ?_, (hfault _).1 hcompile, fun after => ?_⟩
  · obtain ⟨l, hl⟩ := hvalid.2 h
    cases hcompile.symm.trans hl
  · rw [← hcompile]
    apply hafter [⟨"a", .empty⟩] overreaching [⟨"(", .empty⟩] after rfl
    intro n hn
    cases hcount.symm.trans (Rule.groupCount_eq_ok.2 hn)

end Language

end ScopeLexer
