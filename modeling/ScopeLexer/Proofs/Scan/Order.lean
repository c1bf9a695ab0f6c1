import ScopeLexer.Proofs.Scan.Call
import ScopeLexer.Proofs.Scan.Containment
import ScopeLexer.Proofs.Scope.Order

/-! The order of the scopes in chunks. The chunk of a match has the forest of what the parts of the
match come to: one scope each, or the scopes that another language finds in them. A part that lies in
an embedded scope is put into it behind the scopes that were found there, wherever it starts. So the
siblings in a chunk stand by their starts if they do in the chunks of the other languages and no part
comes too late in this way; and not otherwise. -/

namespace ScopeLexer

open ScopeLexer.Language Regex

namespace Scan

variable {embed : Embed} {o : Options} {l : Lexer} {text : Text} {k : Cache} {count : Nat}

/-- What the parts of a match that starts at `start` come to: scopes, and the chunks that other
languages found. -/
inductive Gathers (embed : Embed) (text : Text) (start : Nat) :
    List (Span text.size × Target) → List Scope → List Chunk → Prop
  | nil : Gathers embed text start [] [] []
  | scope {part : Span text.size} {name : String} {parts : List (Span text.size × Target)}
      {ss : List Scope} {ds : List Chunk} (h : Gathers embed text start parts ss ds) :
      Gathers embed text start ((part, .scope name) :: parts)
        (.leaf name (text.width start part.start) (text.width part.start part.stop) :: ss) ds
  | language {part : Span text.size} {name : String} {parts : List (Span text.size × Target)}
      {ss : List Scope} {ds : List Chunk} {k : Cache} {count : Nat} {found : List Chunk}
      (hok : (embed name (text.extract part.start part.stop) k count).result = .ok found)
      (h : Gathers embed text start parts ss ds) :
      Gathers embed text start ((part, .language name) :: parts)
        ((Chunk.scopesFrom 0 found).map (Scope.shift (text.width start part.start)) ++ ss)
        (found ++ ds)

theorem allScopes_gathers {start : Nat} {parts : List (Span text.size × Target)}
    (hok : (allScopes embed text start parts k count).error? = none) :
    ∃ ds, Gathers embed text start parts (allScopes embed text start parts k count).items ds := by
  induction parts generalizing k count with
  | nil => exact ⟨[], .nil⟩
  | cons p parts ih =>
    obtain ⟨part, target⟩ := p
    obtain ⟨hfirst, hrest, hitems⟩ := Run.andThen_error? hok
    obtain ⟨ds, hds⟩ := ih hrest
    rw [allScopes, hitems]
    cases target with
    | scope name => exact ⟨ds, .scope hds⟩
    | language name => exact ⟨_, .language (Run.result_eq_ok.2 ⟨hfirst, rfl⟩) hds⟩

/-- The scopes in what was gathered are ordered if those in the chunks of other languages are. -/
theorem Gathers.ordered_children {start : Nat} {parts : List (Span text.size × Target)}
    {ss : List Scope} {ds : List Chunk} (h : Gathers embed text start parts ss ds) :
    (∀ s ∈ ss, Scope.Ordered s.children) ↔ ∀ d ∈ ds, ∀ s ∈ d.scopes, Scope.Ordered s.children := by
  have hfrom : ∀ (found : List Chunk) (offset : Nat),
      (∀ s ∈ Chunk.scopesFrom offset found, Scope.Ordered s.children) ↔
        ∀ d ∈ found, ∀ s ∈ d.scopes, Scope.Ordered s.children := by
    intro found
    induction found with
    | nil => simp [Chunk.scopesFrom]
    | cons d found ih =>
      intro offset
      rw [Chunk.scopesFrom, List.forall_mem_append, ih, List.forall_mem_map, List.forall_mem_cons]
      simp only [Scope.shift_children, Scope.ordered_shift]
  induction h with
  | nil => simp
  | scope h ih =>
    rw [List.forall_mem_cons]
    exact (and_iff_right Scope.ordered_nil).trans ih
  | language hok h ih =>
    rw [List.forall_mem_append, List.forall_mem_append, List.forall_mem_map]
    simp only [Scope.shift_children, Scope.ordered_shift, hfrom]
    exact and_congr_right fun _ => ih

/-- A chunk is that of a match, with the forest of what the parts of the match come to. -/
def Makes (embed : Embed) (l : Lexer) (text : Text) (ss : List Scope) (ds : List Chunk)
    (d : Chunk) : Prop :=
  ∃ (origin : Nat) (m : Match text.size origin), l.regex.search text origin = some m ∧
    Gathers embed text m.span.start (l.parts m) ss ds ∧
      d = ⟨text.slice m.span.start m.span.stop, Scope.forest ss⟩

/-- A chunk is plain, or that of a match. -/
def Cuts (embed : Embed) (l : Lexer) (text : Text) (d : Chunk) : Prop :=
  d.scopes = [] ∨ ∃ ss ds, Makes embed l text ss ds d

theorem gap_cuts (a b : Nat) : ∀ d ∈ gap text a b, Cuts embed l text d := by
  unfold gap
  split
  · exact List.forall_mem_singleton.2 (.inl rfl)
  · exact List.forall_mem_nil _

theorem take_cuts (cursor : Nat) {origin : Nat} {m : Match text.size origin}
    (hm : l.regex.search text origin = some m) :
    ∀ d ∈ (take embed o l text cursor m k count).items, Cuts embed l text d := by
  refine Run.forall_counted (List.forall_mem_append.2 ⟨gap_cuts _ _, ?_⟩)
  split
  · exact List.forall_mem_nil _
  · next hok =>
    rw [Option.not_isSome_iff_eq_none] at hok
    obtain ⟨ds, hds⟩ := allScopes_gathers hok
    exact List.forall_mem_singleton.2 (.inr ⟨_, ds, origin, m, hm, hds, rfl⟩)

theorem takeAgain_cuts {origin : Nat} {m : Match text.size origin}
    (hm : l.regex.search text origin = some m) (more cursor : Nat) :
    ∀ d ∈ (takeAgain embed o l text m more cursor k count).items, Cuts embed l text d := by
  induction more generalizing cursor k count with
  | zero => exact Run.forall_andThen (take_cuts cursor hm) (List.forall_mem_nil _)
  | succ more ih => exact Run.forall_andThen (take_cuts cursor hm) (ih m.span.stop)

theorem follow_cuts (cursor origin : Nat) :
    ∀ d ∈ (follow embed o l text (l.courseFrom text cursor origin) k count).items,
      Cuts embed l text d := by
  fun_induction Lexer.courseFrom l text cursor origin generalizing k count with
  | case1 cursor origin hm => exact gap_cuts _ _
  | case2 cursor origin m hm he hlt ih =>
    exact Run.forall_andThen (Run.forall_counted (List.forall_mem_nil _)) ih
  | case3 cursor origin m hm he hlt =>
    exact Run.forall_andThen (Run.forall_counted (List.forall_mem_nil _)) (gap_cuts _ _)
  | case4 cursor origin m hm hne hlt ih => exact Run.forall_andThen (take_cuts cursor hm) ih
  | case5 cursor origin m hm hne hlt => exact takeAgain_cuts hm _ cursor

end Scan

open Scan

variable {c : Catalogue} {o : Options} {levels : Nat}

section

variable [Engine]

theorem scan_cuts (l : Lexer) (text : Text) (k : Cache) (count : Nat) :
    ∀ d ∈ (scan c o levels l text k count).items, Cuts (embedding c o levels) l text d := by
  rw [scan_eq_follow]
  exact follow_cuts 0 0

/-- The roots of a chunk stand by their starts in any case. -/
theorem scan_sorted (l : Lexer) (text : Text) (k : Cache) (count : Nat) :
    ∀ d ∈ (scan c o levels l text k count).items,
      d.scopes.Pairwise fun s t => s.start ≤ t.start := by
  intro d hd
  rcases scan_cuts l text k count d hd with hplain | ⟨ss, ds, origin, m, -, -, rfl⟩
  · exact hplain ▸ .nil
  · exact Scope.sorted_forest ss

theorem embedding_sorted (name : String) (text : Text) (k : Cache) (count : Nat) :
    ∀ d ∈ (embedding c o levels name text k count).items,
      d.scopes.Pairwise fun s t => s.start ≤ t.start := by
  cases levels with
  | zero => exact List.forall_mem_nil _
  | succ levels =>
    rw [embedding, embedded]
    split
    · exact List.forall_mem_nil _
    · split
      · exact List.forall_mem_nil _
      · exact scan_sorted _ _ _ _

theorem Scan.Gathers.sorted {text : Text} {start : Nat} {parts : List (Span text.size × Target)}
    {ss : List Scope} {ds : List Chunk}
    (h : Gathers (embedding c o levels) text start parts ss ds) :
    ∀ d ∈ ds, d.scopes.Pairwise fun s t => s.start ≤ t.start := by
  induction h with
  | nil => exact List.forall_mem_nil _
  | scope h ih => exact ih
  | language hok h ih =>
    obtain ⟨-, rfl⟩ := Run.result_eq_ok.1 hok
    exact List.forall_mem_append.2 ⟨embedding_sorted _ _ _ _, ih⟩

/-- The siblings in a forest stand by their starts just if they do in every scope that it is built
from, and none of these is put into one that has a child of its own which starts later. The chunks
of a scan have such forests, so that it depends on the chunks of the other languages in them and on
the parts of their own match. -/
theorem siblings_ordered_iff (ss : List Scope) (c : Catalogue) (o : Options) (levels : Nat)
    (l : Lexer) (text : Text) (k : Cache) (count : Nat) :
    (Scope.Ordered (Scope.forest ss) ↔
      (∀ s ∈ ss, Scope.Ordered s.children) ∧ Scope.Timely (Scope.byStart ss)) ∧
    ∀ d ∈ (scan c o levels l text k count).items,
      d.scopes = [] ∨ ∃ ss ds, Makes (embedding c o levels) l text ss ds d ∧
        (Scope.Ordered d.scopes ↔
          (∀ e ∈ ds, Scope.Ordered e.scopes) ∧ Scope.Timely (Scope.byStart ss)) := by
  refine ⟨Scope.ordered_forest ss, fun d hd => ?_⟩
  rcases scan_cuts l text k count d hd with hplain | ⟨ss, ds, hmakes⟩
  · exact .inl hplain
  · refine .inr ⟨ss, ds, hmakes, ?_⟩
    obtain ⟨origin, m, -, hgathers, rfl⟩ := hmakes
    have hds : (∀ e ∈ ds, Scope.Ordered e.scopes) ↔
        ∀ e ∈ ds, ∀ s ∈ e.scopes, Scope.Ordered s.children := by
      refine forall₂_congr fun e he => ?_
      rw [Scope.ordered_iff, and_iff_right (hgathers.sorted e he)]
    rw [Scope.ordered_forest, hgathers.ordered_children, hds]

end

/-- A language in which the end of its one scope has a name. -/
def inner : Definition :=
  ⟨"inner", "Inner", .names [],
    [⟨"(ab(c)d)", .ofList [(1, .scope "Whole"), (2, .scope "End")]⟩]⟩

/-- A language that gives a name to what lies before that end. -/
def outer : Definition :=
  ⟨"outer", "Outer", .names [],
    [⟨"(a(b)cd)", .ofList [(1, .language "inner"), (2, .scope "Part")]⟩]⟩

/-- What the parts of its match come to. -/
def overtaken : List Scope := [⟨"Whole", 0, 4, [.leaf "End" 2 1]⟩, .leaf "Part" 1 1]

/-- The part comes too late: it starts before the end, but stands behind it. -/
theorem siblings_ordered_iff_overtaken :
    (∀ s ∈ overtaken, Scope.Ordered s.children) ∧ ¬Scope.Ordered (Scope.forest overtaken) ∧
    ∃ l, Lexer.compile outer = .ok l ∧
      ∃ d ∈ (scan (.ofList [outer, inner]) {} 16 l (Text.ofString "abcd") .empty 0).items,
        d.text = "abcd" ∧ (d.scopes = [] ∨ ∃ ss ds,
          Makes (embedding (.ofList [outer, inner]) {} 16) l (Text.ofString "abcd") ss ds d ∧
            (Scope.Ordered d.scopes ↔
              (∀ e ∈ ds, Scope.Ordered e.scopes) ∧ Scope.Timely (Scope.byStart ss))) := by
  have hsorted : Scope.byStart overtaken = overtaken := List.mergeSort_of_pairwise (by decide)
  have hlate : ¬Scope.Timely (Scope.byStart overtaken) := by
    intro h
    rw [hsorted] at h
    have hstart := h ⟨1, by decide⟩ ⟨0, by decide⟩ (by decide) (.leaf "End" 2 1)
      List.mem_cons_self
    exact absurd hstart (by decide)
  have hscan : (Lexer.compile outer).toOption.any fun l =>
      (scan (.ofList [outer, inner]) {} 16 l (Text.ofString "abcd") .empty 0).items.any
        (·.text = "abcd") := by
    decide +kernel
  obtain ⟨l, hl, hscan⟩ := exists_ok_of_any hscan
  obtain ⟨d, hd, htext⟩ := List.any_eq_true.1 hscan
  obtain ⟨hforest, hchunks⟩ := siblings_ordered_iff overtaken (.ofList [outer, inner]) {} 16 l
    (Text.ofString "abcd") .empty 0
  exact ⟨by decide, fun h => hlate (hforest.1 h).2, l, hl, d, hd, of_decide_eq_true htext,
    hchunks d hd⟩

end ScopeLexer
