import Mathlib.Data.List.MinMax
import Mathlib.Order.Nat
import ScopeLexer.Proofs.Cache
import ScopeLexer.Proofs.Scan.Call
import ScopeLexer.Session
import ScopeLexer.Regex.Search

/-! Depth limits. A run opened inside another one is one deeper than that; the whole scan has depth
zero. The deepest run of a scan that succeeds says all about the limits: one that is not below it
changes nothing, and a smaller one is met at the first run that would be deeper. -/

namespace ScopeLexer

open ScopeLexer.Language Regex

namespace Scan

variable {c : Catalogue} {o o' : Options} {l : Lexer} {text : Text} {k : Cache} {count : Nat}

variable [Engine]

/-- The lexer of a call and the cache at the start of the run that it opens. -/
def Call.opens? (c : Catalogue) (q : Call) : Option (Lexer × Cache) :=
  (c.find? q.name).bind fun d =>
    match q.cache.fetch d with
    | (.ok l, k) => some (l, k)
    | (.error _, _) => none

/-- The depths of the run that a call from some depth opens, and of the runs inside that one. -/
def Call.depths (c : Catalogue) (inside : Lexer → Text → Cache → (count : Nat) → List Nat)
    (depth : Nat) (q : Call) : List Nat :=
  (q.opens? c).elim [] fun (l, k) => (depth + 1) :: inside l q.text k q.count

/-- The depths of the runs that a scan at some depth opens, in order. With no levels left all of its
calls are refused. -/
def depths (c : Catalogue) (o : Options) :
    (levels depth : Nat) → Lexer → Text → Cache → (count : Nat) → List Nat
  | 0, _, _, _, _, _ => []
  | levels + 1, depth, l, text, k, count =>
    (calls (embedding c o (levels + 1)) o l text (l.course text) k count).flatMap
      (Call.depths c (depths c o levels (depth + 1)) depth)

/-- The largest number of runs of other languages that a scan has open at once. -/
def deepest (c : Catalogue) (o : Options) (l : Lexer) (text : Text) (k : Cache) (count : Nat) :
    Nat :=
  (depths c o o.depthLimit 0 l text k count).foldr max 0

theorem deepest_le_iff {limit : Nat} :
    deepest c o l text k count ≤ limit ↔
      ∀ x ∈ depths c o o.depthLimit 0 l text k count, x ≤ limit :=
  ⟨fun h _ hx => Nat.le_trans (List.le_max_of_le hx (Nat.le_refl _)) h,
    List.max_le_of_forall_le _ limit⟩

/-- A call either opens its run or fails, however runs go. -/
theorem Call.run_embedded (c : Catalogue) (q : Call) :
    (∃ l k, q.opens? c = some (l, k) ∧
      ∀ scan, q.run (embedded c scan) = scan l q.text k q.count) ∨
    q.opens? c = none ∧ ∀ scan, (q.run (embedded c scan)).error? ≠ none := by
  unfold opens? Call.run embedded
  cases c.find? q.name with
  | none => exact .inr ⟨rfl, fun _ h => nomatch h⟩
  | some d =>
    simp only [Option.bind_some]
    obtain ⟨e | l, k⟩ := q.cache.fetch d
    · exact .inr ⟨rfl, fun _ h => nomatch h⟩
    · exact .inl ⟨l, k, rfl, fun _ => rfl⟩

theorem Call.mem_depths {inside : Lexer → Text → Cache → Nat → List Nat} {depth x : Nat} {q : Call}
    {l : Lexer} {k : Cache} (h : q.opens? c = some (l, k)) :
    x ∈ q.depths c inside depth ↔ x = depth + 1 ∨ x ∈ inside l q.text k q.count := by
  rw [Call.depths, h, Option.elim_some, List.mem_cons]

theorem depths_le {levels depth : Nat} :
    ∀ x ∈ depths c o levels depth l text k count, x ≤ depth + levels := by
  induction levels generalizing depth l text k count with
  | zero => exact fun x hx => nomatch hx
  | succ levels ih =>
    intro x hx
    obtain ⟨q, -, hx⟩ := List.mem_flatMap.1 hx
    rcases q.run_embedded c with ⟨l, k, hopens, -⟩ | ⟨hnone, -⟩
    · rcases (Call.mem_depths hopens).1 hx with rfl | hx
      · omega
      · have := ih x hx
        omega
    · simp [Call.depths, hnone] at hx

/-- What a call comes to with other levels: it runs as before if no run that it opens is too deep,
and fails otherwise. -/
theorem fails_deep {levels : Nat} (levels' depth : Nat) (qs : List Call)
    (h : ∀ l text k count, (scan c o levels l text k count).error? = none → ∀ levels',
      Run.Cut (∃ x ∈ depths c o levels (depth + 1) l text k count, depth + 1 + levels' < x)
        (.nestingTooDeep o'.depthLimit) (scan c o levels l text k count)
        (scan c o' levels' l text k count)) :
    Fails (fun q => ∃ x ∈ q.depths c (depths c o levels (depth + 1)) depth, depth + levels' < x)
      (.nestingTooDeep o'.depthLimit) (embedding c o (levels + 1)) (embedding c o' levels') qs := by
  intro q _ hq
  rcases q.run_embedded c with ⟨l, k, hopens, hrun⟩ | ⟨-, hne⟩
  · simp only [Call.mem_depths hopens]
    rw [embedding, hrun] at hq
    cases levels' with
    | zero =>
      have hdeep : ∃ x, (x = depth + 1 ∨ x ∈ depths c o levels (depth + 1) l q.text k q.count) ∧
          depth + 0 < x := ⟨depth + 1, .inl rfl, Nat.lt_succ_self _⟩
      exact ⟨fun hno => absurd hdeep hno, fun _ => rfl⟩
    | succ levels' =>
      have hcut := h l q.text k q.count hq levels'
      rw [embedding, hrun, embedding, hrun]
      refine ⟨fun hno => hcut.same ?_, fun ⟨x, hx, hlt⟩ => hcut.error? ⟨x, ?_, by omega⟩⟩
      · rintro ⟨x, hx, hlt⟩
        exact hno ⟨x, .inr hx, by omega⟩
      · exact hx.resolve_left fun h => by omega
  · exact absurd hq (hne _)

/-- With other levels left, a scan that succeeded goes as before if it opens no run that is too
deep, and otherwise it is cut short by the first of them. -/
theorem scan_cut (ho : o'.matchLimit = o.matchLimit) {levels : Nat} (levels' : Nat) {depth : Nat}
    (hok : (scan c o levels l text k count).error? = none) :
    Run.Cut (∃ x ∈ depths c o levels depth l text k count, depth + levels' < x)
      (.nestingTooDeep o'.depthLimit) (scan c o levels l text k count)
      (scan c o' levels' l text k count) := by
  induction levels generalizing l text k count levels' depth with
  | zero =>
    -- every call is refused, so there was none
    have hfails : Fails (fun _ => False) (.nestingTooDeep o'.depthLimit) (embedding c o 0)
        (embedding c o' levels') (calls (embedding c o 0) o l text (l.course text) k count) :=
      fun _ _ hq => nomatch hq
    rw [scan_eq_follow] at hok ⊢
    rw [scan_eq_follow]
    exact (follow_cut ho hok hfails).congr (by simp [depths])
  | succ levels ih =>
    rw [scan_eq_follow] at hok ⊢
    rw [scan_eq_follow]
    have hfails := fails_deep levels' depth
      (calls (embedding c o (levels + 1)) o l text (l.course text) k count)
      fun l text k count hok levels' => ih levels' hok
    refine (follow_cut ho hok hfails).congr ?_
    simp only [depths, List.mem_flatMap]
    constructor
    · rintro ⟨q, hq, x, hx, hlt⟩
      exact ⟨x, ⟨q, hq, hx⟩, hlt⟩
    · rintro ⟨x, ⟨q, hq, hx⟩, hlt⟩
      exact ⟨q, hq, x, hx, hlt⟩

end Scan

/-- If a scan succeeds under some depth limit, the deepest of its runs decides what happens under
any other: from there on the chunks are the same, and below it the limit is exceeded after the first
few of these chunks. No scan, however it ends, opens a run deeper than the limit. -/
theorem scan_depth_exact [Engine] (c : Catalogue) (k : Cache) (matchLimit : Option Nat) (l : Lexer)
    (source : String) {limit : Nat} {ds : List Chunk}
    (h : ((⟨c, ⟨limit, matchLimit⟩, k, 0⟩ : Scanner).scan l source).1.result = .ok ds)
    (other : Nat) :
    let deepest := Scan.deepest c ⟨limit, matchLimit⟩ l (Text.ofString source) k 0
    let r := ((⟨c, ⟨other, matchLimit⟩, k, 0⟩ : Scanner).scan l source).1
    (deepest ≤ other → r.result = .ok ds) ∧
      (other < deepest → r.error? = some (.nestingTooDeep other) ∧ r.items <+: ds) ∧
      Scan.deepest c ⟨other, matchLimit⟩ l (Text.ofString source) k 0 ≤ other := by
  intro deepest r
  obtain ⟨hok, hitems⟩ := Run.result_eq_ok.1 h
  have hlimit : (⟨other, matchLimit⟩ : Options).matchLimit =
    (⟨limit, matchLimit⟩ : Options).matchLimit := rfl
  have hcut : Run.Cut
      (∃ x ∈ Scan.depths c ⟨limit, matchLimit⟩ limit 0 l (Text.ofString source) k 0, 0 + other < x)
      (.nestingTooDeep other) (scan c ⟨limit, matchLimit⟩ limit l (Text.ofString source) k 0) r :=
    Scan.scan_cut hlimit other hok
  have hdeep : deepest ≤ other ↔ ¬∃ x ∈ Scan.depths c ⟨limit, matchLimit⟩ limit 0 l
      (Text.ofString source) k 0, 0 + other < x := by
    simp only [deepest, Scan.deepest_le_iff, Nat.zero_add, not_exists, not_and, Nat.not_lt]
  refine ⟨fun hle => ?_, fun hlt => ?_, Scan.deepest_le_iff.2 fun x hx => ?_⟩
  · rw [hcut.same (hdeep.1 hle)]
    exact h
  · have hF := not_not.1 (mt hdeep.2 (Nat.not_le.2 hlt))
    refine ⟨hcut.error? hF, ?_⟩
    rw [← hitems]
    exact hcut.isPrefix hF
  · have hle : x ≤ 0 + other := Scan.depths_le x hx
    rwa [Nat.zero_add] at hle

/-- Parentheses with text in parentheses inside. -/
def parens : Definition :=
  ⟨"parens", "Parens", .names [],
    [⟨"\\((.*)\\)", .ofList [(0, .scope "Pair"), (1, .language "Parens")]⟩]⟩

/-- A new scanner for them with some depth limit. -/
def parens.scanner (limit : Nat) : Scanner := ⟨.ofList [parens], ⟨limit, none⟩, .empty, 0⟩

/-- The innermost text is two deep, though it has no parentheses of its own. -/
theorem scan_depth_exact_parens : ∃ l ds, Lexer.compile parens = .ok l ∧
    ((parens.scanner 16).scan l "a(é(b)) (c)").1.result = .ok ds ∧
    Scan.deepest (.ofList [parens]) ⟨16, none⟩ l (Text.ofString "a(é(b)) (c)") .empty 0 = 2 ∧
    ((parens.scanner 2).scan l "a(é(b)) (c)").1.result = .ok ds ∧
    ((parens.scanner 1).scan l "a(é(b)) (c)").1.error? = some (.nestingTooDeep 1) := by
  have hscan : (Lexer.compile parens).toOption.any fun l =>
      ((parens.scanner 16).scan l "a(é(b)) (c)").1.error?.isNone &&
        Scan.deepest (.ofList [parens]) ⟨16, none⟩ l (Text.ofString "a(é(b)) (c)") .empty 0 =
          2 := by
    decide +kernel
  obtain ⟨l, hl, hscan⟩ := exists_ok_of_any hscan
  simp only [Bool.and_eq_true, decide_eq_true_eq, Option.isNone_iff_eq_none] at hscan
  obtain ⟨hok, hdeepest⟩ := hscan
  have hresult := Run.result_eq_ok.2 ⟨hok, rfl⟩
  obtain ⟨hsame, -, -⟩ := scan_depth_exact _ _ _ l _ hresult 2
  obtain ⟨-, hcut, -⟩ := scan_depth_exact _ _ _ l _ hresult 1
  refine ⟨l, _, hl, hresult, hdeepest, hsame (Nat.le_of_eq hdeepest), (hcut ?_).1⟩
  rw [hdeepest]
  exact Nat.lt_succ_self 1

end ScopeLexer
