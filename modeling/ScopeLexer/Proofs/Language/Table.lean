import Mathlib.Algebra.GroupWithZero.Nat
import Mathlib.Data.List.Forall2
import Mathlib.Data.List.Pairwise
import Mathlib.Data.List.ReduceOption
import ScopeLexer.Proofs.Language.Checked
import ScopeLexer.Regex.Search

/-! The table of a lexer. Every rule has a block in it, one behind the other: an entry for the group
that stands around the rule, and one for each of its own groups. A block is as long as the rule's
part of the joined pattern has groups; so the entry of a group is found behind the groups of the
rules before, and each target that a rule gives to a group is in the table once. -/

namespace ScopeLexer

open Regex

/-! ### Groups of rules -/

namespace Regex

/-- The number of the group around the rule numbered `k`. -/
def baseOf (rs : List Expression) (k : Nat) : Nat := 1 + ((rs.take k).map (1 + ·.groups)).sum

theorem baseOf_zero (rs : List Expression) : baseOf rs 0 = 1 := rfl

theorem baseOf_succ (r : Expression) (rs : List Expression) (k : Nat) :
    baseOf (r :: rs) (k + 1) = 1 + r.groups + baseOf rs k := by
  rw [baseOf, baseOf, List.take_succ_cons, List.map_cons, List.sum_cons]
  omega

theorem baseOf_pos (rs : List Expression) (k : Nat) : 0 < baseOf rs k := by
  rw [baseOf]
  omega

/-- Every group but that of the whole match is a group of just one rule. -/
theorem existsUnique_baseOf (rs : List Expression) (i : Nat) (hpos : 0 < i)
    (hlt : i < 1 + (rs.map (1 + ·.groups)).sum) :
    ∃! p : Nat × Nat, ∃ r, rs[p.1]? = some r ∧ p.2 ≤ r.groups ∧ i = baseOf rs p.1 + p.2 := by
  induction rs generalizing i with
  | nil => exact absurd hlt (Nat.not_lt_of_le hpos)
  | cons r rs ih =>
    rw [List.map_cons, List.sum_cons] at hlt
    by_cases hi : i ≤ 1 + r.groups
    · have hfirst : i = baseOf (r :: rs) 0 + (i - 1) := by
        rw [baseOf_zero]
        omega
      refine ⟨(0, i - 1), ⟨r, rfl, by omega, hfirst⟩, ?_⟩
      rintro ⟨k, o⟩ ⟨r', hr', ho, hio⟩
      cases k with
      | zero =>
        rw [baseOf_zero] at hio
        simp only [hio, Nat.add_sub_cancel_left]
      | succ k =>
        have hbase := baseOf_pos rs k
        rw [baseOf_succ] at hio
        omega
    · obtain ⟨⟨k, o⟩, ⟨r', hr', ho, hio⟩, hunique⟩ :=
        ih (i - (1 + r.groups)) (by omega) (by omega)
      have hinner : i - (1 + r.groups) = baseOf rs k + o := hio
      have hlater : i = baseOf (r :: rs) (k + 1) + o := by
        rw [baseOf_succ]
        omega
      refine ⟨(k + 1, o), ⟨r', hr', ho, hlater⟩, ?_⟩
      rintro ⟨k', o'⟩ ⟨r'', hr'', ho', hio'⟩
      cases k' with
      | zero =>
        obtain rfl := Option.some.inj hr''
        rw [baseOf_zero] at hio'
        omega
      | succ k' =>
        rw [baseOf_succ] at hio'
        have hinner : i - (1 + r.groups) = baseOf rs k' + o' := by omega
        obtain ⟨rfl, rfl⟩ := Prod.mk.inj (hunique (k', o') ⟨r'', hr'', ho', hinner⟩)
        rfl

end Regex

namespace Language

/-! ### Targets in order -/

namespace Captures

variable {c : Captures} {i : Nat} {t : Target}

theorem mem_of_get? (h : c.get? i = some t) : (i, t) ∈ c.entries := by
  obtain ⟨before, after, he, -⟩ := List.lookup_eq_some_iff.1 h
  rw [he]
  exact List.mem_append_right _ List.mem_cons_self

theorem le_largest {e : Nat × Target} (h : e ∈ c.entries) : e.1 ≤ c.largest?.getD 0 := by
  have hsorted : c.entries.Pairwise (·.1 ≤ ·.1) := c.sorted.imp Nat.le_of_lt
  have hlast := hsorted.rel_getLast_of_rel_getLast_getLast h (Nat.le_refl _)
  rw [largest?, List.getLast?_eq_getLast_of_ne_nil (List.ne_nil_of_mem h)]
  exact hlast

/-- Looked up number by number, the entries of a sorted list come in their order. -/
theorem filterMap_lookup {es : List (Nat × Target)} (hs : es.Pairwise (·.1 < ·.1))
    (start len : Nat) (h : ∀ e ∈ es, start ≤ e.1 ∧ e.1 < start + len) :
    (List.range' start len).filterMap (es.lookup ·) = es.map (·.2) := by
  induction es generalizing start len with
  | nil => simp
  | cons e es ih =>
    obtain ⟨i, t⟩ := e
    obtain ⟨hlater, hsorted⟩ := List.pairwise_cons.1 hs
    obtain ⟨⟨hlow, hhigh⟩, hes⟩ := List.forall_mem_cons.1 h
    -- the numbers before the first entry, its own number, and those behind it
    obtain ⟨before, rfl⟩ := Nat.exists_eq_add_of_le hlow
    obtain ⟨behind, rfl⟩ : ∃ behind, len = before + (behind + 1) := ⟨len - before - 1, by omega⟩
    rw [← List.range'_append_1, List.range'_succ, List.filterMap_append, List.filterMap_cons]
    have hbefore : (List.range' start before).filterMap (((start + before, t) :: es).lookup ·) =
        [] := by
      refine List.filterMap_eq_nil_iff.2 fun j hj => List.lookup_eq_none_iff.2 fun e he => ?_
      have hj := List.mem_range'_1.1 hj
      have hle : start + before ≤ e.1 := by
        rcases List.mem_cons.1 he with rfl | he
        · exact Nat.le_refl _
        · exact Nat.le_of_lt (hlater e he)
      exact bne_iff_ne.2 (by omega)
    have hbehind : (List.range' (start + before + 1) behind).filterMap
        (((start + before, t) :: es).lookup ·) = es.map (·.2) := by
      rw [← ih hsorted (start + before + 1) behind fun e he => ?_]
      · refine List.filterMap_congr fun j hj => ?_
        have hj := List.mem_range'_1.1 hj
        have hne : (j == start + before) = false := beq_eq_false_iff_ne.2 (by omega)
        rw [List.lookup_cons, hne]
      · have hstart : start + before < e.1 := hlater e he
        have hstop := (hes e he).2
        omega
    rw [hbefore, hbehind]
    simp

theorem filterMap_get? (c : Captures) {groups : Nat} (h : c.largest?.getD 0 ≤ groups) :
    (List.range (groups + 1)).filterMap c.get? = c.entries.map (·.2) := by
  rw [List.range_eq_range']
  refine filterMap_lookup c.sorted 0 (groups + 1) fun e he => ?_
  have hle := le_largest he
  omega

end Captures

/-! ### Blocks -/

/-- A rule that is accepted alone and has the groups that it gives targets to. -/
structure Rule.Alone [Engine] (rule : Rule) (r : Expression) : Prop where
  compiled : Engine.compile false rule.pattern = .ok r
  largest : rule.captures.largest?.getD 0 ≤ r.groups

theorem groupCounts_alone [Engine] {grammar : String} {index : Nat} {rules : List Rule}
    {ns : List Nat} (h : groupCounts grammar index rules = .ok ns) :
    ∃ rs, List.Forall₂ Rule.Alone rules rs ∧ ns = rs.map (·.groups) := by
  induction rules generalizing index ns with
  | nil =>
    obtain rfl := Except.ok.inj h
    exact ⟨[], .nil, rfl⟩
  | cons rule rules ih =>
    obtain ⟨n, hn, h⟩ := bind_eq_ok.1 h
    obtain ⟨ns', hns, h⟩ := bind_eq_ok.1 h
    obtain rfl := pure_eq_ok.1 h
    obtain ⟨-, ⟨r, hr, hlargest, rfl⟩, -⟩ := Rule.groupCount_cases hn
    obtain ⟨rs, hrs, rfl⟩ := ih hns
    exact ⟨r :: rs, .cons ⟨hr, hlargest⟩ hrs, rfl⟩

/-- The blocks of rules that are these patterns alone. -/
def blocks (rules : List Rule) (rs : List Expression) : List (Option Target) :=
  (List.zipWith (fun rule r => rule.targets r.groups) rules rs).flatten

theorem table_eq_blocks (rules : List Rule) (rs : List Expression) :
    Lexer.table rules (rs.map (·.groups)) = none :: blocks rules rs := by
  rw [Lexer.table, List.zipWith_map_right]
  rfl

theorem blocks_cons (rule : Rule) (rules : List Rule) (r : Expression) (rs : List Expression) :
    blocks (rule :: rules) (r :: rs) = rule.targets r.groups ++ blocks rules rs := rfl

theorem Rule.length_targets (rule : Rule) (groups : Nat) :
    (rule.targets groups).length = groups + 1 := by
  rw [targets, List.length_map, List.length_range]

variable {rules : List Rule} {rs : List Expression}

theorem length_blocks [Engine] (h : List.Forall₂ Rule.Alone rules rs) :
    (blocks rules rs).length = (rs.map (1 + ·.groups)).sum := by
  induction h with
  | nil => rfl
  | cons _ _ ih =>
    rw [blocks_cons, List.length_append, Rule.length_targets, ih, List.map_cons, List.sum_cons,
      Nat.add_comm _ 1]

/-- The entry of a group of a rule, counted from the first block on. -/
theorem getElem?_blocks {k o i : Nat} {rule : Rule} {r : Expression} (hrule : rules[k]? = some rule)
    (hr : rs[k]? = some r) (ho : o ≤ r.groups) (hi : baseOf rs k + o = i + 1) :
    (blocks rules rs)[i]? = some (rule.captures.get? o) := by
  induction rules generalizing rs k i with
  | nil => cases hrule
  | cons rule' rules ih =>
    cases rs with
    | nil => cases hr
    | cons r' rs =>
      rw [blocks_cons]
      cases k with
      | zero =>
        obtain rfl := Option.some.inj hrule
        obtain rfl := Option.some.inj hr
        obtain rfl : o = i := by
          rw [baseOf_zero] at hi
          omega
        have hlt : o < (rule'.targets r'.groups).length := by
          rw [Rule.length_targets]
          omega
        rw [List.getElem?_append_left hlt, Rule.targets, List.getElem?_map,
          List.getElem?_range (by omega)]
        rfl
      | succ k =>
        have hbase := baseOf_pos rs k
        rw [baseOf_succ] at hi
        have hge : (rule'.targets r'.groups).length ≤ i := by
          rw [Rule.length_targets]
          omega
        rw [List.getElem?_append_right hge, Rule.length_targets]
        exact ih hrule hr (by omega)

theorem reduceOption_blocks [Engine] (h : List.Forall₂ Rule.Alone rules rs) :
    (blocks rules rs).reduceOption = rules.flatMap (·.captures.entries.map (·.2)) := by
  induction h with
  | nil => rfl
  | @cons rule r rules rs hr _ ih =>
    have hblock : (rule.targets r.groups).reduceOption = rule.captures.entries.map (·.2) := by
      rw [Rule.targets, List.reduceOption, List.filterMap_map]
      exact rule.captures.filterMap_get? hr.largest
    rw [blocks_cons, List.reduceOption_append, hblock, ih, List.flatMap_cons]

/-! ### Tables -/

/-- The table of a lexer as its rules determine it, each of which is one of the patterns `rs` alone:
`baseOf rs k` is the number of the group around the rule numbered `k`. -/
structure Lexer.Aligned [Engine] (d : Definition) (l : Lexer) (rs : List Expression) : Prop where
  alone : List.Forall₂ (fun rule r => Engine.compile false rule.pattern = .ok r) d.rules rs
  pattern : l.pattern = "|".intercalate (d.rules.map fun rule => wrapped rule.pattern)
  joined : Engine.compile true l.pattern = .ok l.regex
  length : l.targets.length = 1 + (rs.map fun r => 1 + r.groups).sum
  groups : l.targets.length = l.regex.groups + 1
  whole : l.targets[0]? = some none
  entry : ∀ (k : Nat) rule r o, d.rules[k]? = some rule → rs[k]? = some r → o ≤ r.groups →
    l.targets[baseOf rs k + o]? = some (rule.captures.get? o)
  owner : ∀ i, 0 < i → i < l.targets.length →
    ∃! p : Nat × Nat, ∃ r, rs[p.1]? = some r ∧ p.2 ≤ r.groups ∧ i = baseOf rs p.1 + p.2
  inside : ∀ (k : Nat) rule r o target, d.rules[k]? = some rule → rs[k]? = some r →
    rule.captures.get? o = some target → o ≤ r.groups
  once : l.targets.reduceOption = d.rules.flatMap fun rule => rule.captures.entries.map (·.2)

/-- In the table of every lexer, each group of each rule has an entry of its own, with the target
that the rule gives to the group, if it does so; and there are no other entries but that of the
whole match, which is empty. -/
theorem Lexer.targets_aligned [Engine] {d : Definition} {l : Lexer}
    (h : Lexer.compile d = .ok l) :
    ∃ rs, l.Aligned d rs := by
  obtain ⟨-, -, hregex, hpattern, counts, hcounts, htargets, hgroups⟩ := compile_parts h
  obtain ⟨rs, hrs, rfl⟩ := groupCounts_alone hcounts
  rw [table_eq_blocks] at htargets
  have hlength : l.targets.length = 1 + (rs.map (1 + ·.groups)).sum := by
    rw [htargets, List.length_cons, length_blocks hrs, Nat.add_comm]
  refine ⟨rs, hrs.imp fun _ _ hr => hr.compiled, hpattern, hpattern ▸ hregex, hlength, hgroups,
    ?_, ?_, ?_, ?_, ?_⟩
  · rw [htargets]
    rfl
  · intro k rule r o hrule hr ho
    have hbase := baseOf_pos rs k
    obtain ⟨i, hi⟩ : ∃ i, baseOf rs k + o = i + 1 := ⟨baseOf rs k + o - 1, by omega⟩
    rw [htargets, hi, List.getElem?_cons_succ]
    exact getElem?_blocks hrule hr ho hi
  · intro i hpos hlt
    rw [hlength] at hlt
    exact existsUnique_baseOf rs i hpos hlt
  · intro k rule r o target hrule hr htarget
    obtain ⟨hk, rfl⟩ := List.getElem?_eq_some_iff.1 hrule
    obtain ⟨hk', rfl⟩ := List.getElem?_eq_some_iff.1 hr
    have halone : d.rules[k].Alone rs[k] := hrs.get hk hk'
    exact Nat.le_trans (Captures.le_largest (Captures.mem_of_get? htarget)) halone.largest
  · rw [htargets]
    exact reduceOption_blocks hrs

/-- A word, two letters, and what stands between two tags. -/
def tagged : Definition :=
  ⟨"test", "Test", .names [],
    [⟨"\\bvar\\b", .ofList [(0, .scope "Keyword")]⟩,
      ⟨"(a)(b)", .ofList [(1, .scope "X"), (2, .scope "Y")]⟩,
      ⟨"(<s>)(.*?)(</s>)", .ofList [(2, .language "js")]⟩]⟩

/-- Blocks of one, three and four entries. -/
theorem Lexer.targets_aligned_tagged : ∃ l, Lexer.compile tagged = .ok l ∧
    (∃ rs, l.Aligned tagged rs) ∧
    l.pattern = "(?-ix:(\\bvar\\b))|(?-ix:((a)(b)))|(?-ix:((<s>)(.*?)(</s>)))" ∧
    l.targets = [none, some (.scope "Keyword"), none, some (.scope "X"), some (.scope "Y"), none,
      none, some (.language "js"), none] := by
  have htable : (Lexer.compile tagged).toOption.any fun l =>
      l.pattern = "(?-ix:(\\bvar\\b))|(?-ix:((a)(b)))|(?-ix:((<s>)(.*?)(</s>)))" &&
      l.targets = [none, some (.scope "Keyword"), none, some (.scope "X"), some (.scope "Y"), none,
        none, some (.language "js"), none] := by
    decide +kernel
  obtain ⟨l, hl, htable⟩ := exists_ok_of_any htable
  simp only [Bool.and_eq_true, decide_eq_true_eq] at htable
  exact ⟨l, hl, targets_aligned hl, htable⟩

end Language

end ScopeLexer
