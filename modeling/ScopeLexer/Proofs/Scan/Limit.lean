import ScopeLexer.Proofs.Scan.Call
import ScopeLexer.Proofs.Scan.Rounds
import ScopeLexer.Session
import ScopeLexer.Regex.Search

/-! Match limits. A scan that ends without a limit has counted some matches, those in other
languages and empty ones included. If they exceed a limit, together with those counted before, the
scan is cut short under this limit, whatever else would have cut it short later; if not, the limit
changes nothing. A scan that counts no match does not notice that a limit was exceeded before. -/

namespace ScopeLexer

open ScopeLexer.Language Regex

variable {α β : Type} {limit count depthLimit : Nat} {k : Cache}

namespace Run

/-- It counts a match that the limit forbids, after `count` others. -/
def Exceeds (limit count : Nat) (r : Run α) : Prop := r.spent ≠ 0 ∧ limit < count + r.spent

variable {F : Prop} {e : Error} {r r' : Run α} {next next' : Cache → Nat → Run α}

theorem exceeds_andThen (hr : r.error? = none) :
    r.Exceeds limit count ∨ (next r.cache r.spent).Exceeds limit (count + r.spent) ↔
      (r.andThen next).Exceeds limit count := by
  rw [andThen_of_none hr]
  simp only [Exceeds]
  omega

theorem Breaks.andThen_of_some {e' : Error} (h : Breaks F e r r') (hr : r.error? = some e') :
    Breaks F e (r.andThen next) (r'.andThen next') := by
  rw [Run.andThen_of_some hr]
  refine ⟨fun hF => ?_, fun hF => ?_⟩
  · rw [h.same hF, Run.andThen_of_some hr]
  · rw [Run.andThen_of_some (h.error? hF), h.error? hF]

theorem Cut.andThen_of_some {e' : Error} (h : Cut F e r r') (hr : r.error? = some e') :
    Cut F e (r.andThen next) (r'.andThen next') := by
  refine ⟨h.toBreaks.andThen_of_some hr, fun hF => ?_⟩
  rw [Run.andThen_of_some hr, Run.andThen_of_some (h.error? hF)]
  exact h.isPrefix hF

theorem Ends.of_next (h : (r.andThen next).Ends) (hr : r.error? = none) :
    (next r.cache r.spent).Ends := by
  rw [Ends, andThen_of_none hr] at h
  exact h

/-- Under a limit, what comes first is cut short by it, or what comes next after the matches of what
came first. -/
theorem Breaks.limit_andThen (h : Breaks (r.Exceeds limit count) e r r')
    (hn : r.error? = none → Breaks ((next r.cache r.spent).Exceeds limit (count + r.spent)) e
      (next r.cache r.spent) (next' r.cache r.spent)) :
    Breaks ((r.andThen next).Exceeds limit count) e (r.andThen next) (r'.andThen next') := by
  cases hr : r.error? with
  | some e' =>
    have hsame : r.andThen next = r := Run.andThen_of_some hr
    exact (h.andThen_of_some hr).congr (by rw [hsame])
  | none => exact (h.andThen hr (hn hr)).congr (exceeds_andThen hr)

theorem Cut.limit_andThen (h : Cut (r.Exceeds limit count) e r r')
    (hn : r.error? = none → Cut ((next r.cache r.spent).Exceeds limit (count + r.spent)) e
      (next r.cache r.spent) (next' r.cache r.spent)) :
    Cut ((r.andThen next).Exceeds limit count) e (r.andThen next) (r'.andThen next') := by
  cases hr : r.error? with
  | some e' =>
    have hsame : r.andThen next = r := Run.andThen_of_some hr
    exact (h.andThen_of_some hr).congr (by rw [hsame])
  | none => exact (h.andThen hr (hn hr)).congr (exceeds_andThen hr)

/-- Where nothing is counted, no limit is noticed. -/
theorem Cut.done (items : List α) (k : Cache) :
    Cut ((Run.done items k).Exceeds limit count) e (.done items k) (.done items k) :=
  ⟨⟨fun _ => rfl, fun hF => absurd rfl hF.1⟩, fun _ => List.prefix_rfl⟩

/-- The match that is counted may be the first one that the limit forbids. -/
theorem Cut.counted (depthLimit limit count : Nat)
    (h : Cut (r.Exceeds limit (count + 1)) (.matchLimitExceeded limit) r r') :
    Cut ((Run.counted ⟨depthLimit, none⟩ k count r).Exceeds limit count) (.matchLimitExceeded limit)
      (Run.counted ⟨depthLimit, none⟩ k count r)
      (Run.counted ⟨depthLimit, some limit⟩ k count r') := by
  show Cut (r.spend.Exceeds limit count) (.matchLimitExceeded limit) r.spend
    (if limit ≤ count then (failed (.matchLimitExceeded limit) k).spend else r'.spend)
  split
  · next hle =>
    have hF : r.spend.Exceeds limit count := ⟨Nat.succ_ne_zero _, by simp only [spend]; omega⟩
    exact ⟨⟨fun hno => absurd hF hno, fun _ => rfl⟩, fun _ => List.nil_prefix⟩
  · next hlt =>
    have hF : r.Exceeds limit (count + 1) ↔ r.spend.Exceeds limit count := by
      simp only [Exceeds, spend]
      omega
    refine Cut.congr ⟨⟨fun hno => ?_, fun h' => h.error? h'⟩, fun h' => h.isPrefix h'⟩ hF
    rw [h.same hno]

end Run

namespace Scan

variable {embed embed' : Embed} {l : Lexer} {text : Text}

/-- Where the first way to run languages ends, the second one is the same under a limit. -/
def EmbedsLimited (limit : Nat) (embed embed' : Embed) : Prop :=
  ∀ name text k count, (embed name text k count).Ends →
    Run.Breaks ((embed name text k count).Exceeds limit count) (.matchLimitExceeded limit)
      (embed name text k count) (embed' name text k count)

theorem partScopes_limit (h : EmbedsLimited limit embed embed') {start : Nat}
    {part : Span text.size} {target : Target}
    (hends : (partScopes embed text start part target k count).Ends) :
    Run.Breaks ((partScopes embed text start part target k count).Exceeds limit count)
      (.matchLimitExceeded limit) (partScopes embed text start part target k count)
      (partScopes embed' text start part target k count) := by
  cases target with
  | scope name => exact (Run.Cut.done _ k).toBreaks
  | language name =>
    have hrun := h name (text.extract part.start part.stop) k count hends
    refine ⟨fun hF => ?_, hrun.error?⟩
    exact congrArg (Run.mapItems fun ds =>
      (Chunk.scopesFrom 0 ds).map (Scope.shift (text.width start part.start))) (hrun.same hF)

theorem allScopes_limit (h : EmbedsLimited limit embed embed') {start : Nat}
    {parts : List (Span text.size × Target)}
    (hends : (allScopes embed text start parts k count).Ends) :
    Run.Breaks ((allScopes embed text start parts k count).Exceeds limit count)
      (.matchLimitExceeded limit) (allScopes embed text start parts k count)
      (allScopes embed' text start parts k count) := by
  induction parts generalizing k count with
  | nil => exact (Run.Cut.done _ k).toBreaks
  | cons p parts ih =>
    exact (partScopes_limit h hends.of_andThen).limit_andThen fun hr => ih (hends.of_next hr)

theorem take_limit (h : EmbedsLimited limit embed embed') {cursor origin : Nat}
    {m : Match text.size origin}
    (hends : (take embed ⟨depthLimit, none⟩ l text cursor m k count).Ends) :
    Run.Cut ((take embed ⟨depthLimit, none⟩ l text cursor m k count).Exceeds limit count)
      (.matchLimitExceeded limit) (take embed ⟨depthLimit, none⟩ l text cursor m k count)
      (take embed' ⟨depthLimit, some limit⟩ l text cursor m k count) := by
  have hfound := allScopes_limit h
    (show (allScopes embed text m.span.start (l.parts m) k (count + 1)).Ends from hends)
  refine Run.Cut.counted depthLimit limit count ⟨⟨fun hF => ?_, hfound.error?⟩, fun hF => ?_⟩
  · rw [hfound.same hF]
  · simp [hfound.error? hF]

theorem follow_limit (h : EmbedsLimited limit embed embed') {course : Course text.size}
    (hends : (follow embed ⟨depthLimit, none⟩ l text course k count).Ends) :
    Run.Cut ((follow embed ⟨depthLimit, none⟩ l text course k count).Exceeds limit count)
      (.matchLimitExceeded limit) (follow embed ⟨depthLimit, none⟩ l text course k count)
      (follow embed' ⟨depthLimit, some limit⟩ l text course k count) := by
  induction course generalizing k count with
  | finish cursor => exact .done _ k
  | pass m rest ih =>
    have hpass := Run.Cut.counted (k := k) depthLimit limit count (.done (α := Chunk) [] k)
    exact hpass.limit_andThen fun hr => ih (hends.of_next hr)
  | take cursor m rest ih =>
    exact (take_limit h hends.of_andThen).limit_andThen fun hr => ih (hends.of_next hr)
  | again cursor m =>
    -- without a limit the scan ends only if the match is not taken the first time
    have hfree : follow embed ⟨depthLimit, none⟩ l text (.again cursor m) k count =
        (take embed ⟨depthLimit, none⟩ l text cursor m k count).andThen fun k _ =>
          .failed .stalled k := by
      simp only [follow, Option.getD_none, Nat.zero_sub, takeAgain]
    rw [hfree] at hends
    have htake := take_limit h hends.of_andThen
    cases hr : (take embed ⟨depthLimit, none⟩ l text cursor m k count).error? with
    | none => exact absurd rfl (hends.of_next hr)
    | some e =>
      have hfirst : ∀ next, (take embed ⟨depthLimit, none⟩ l text cursor m k count).andThen next =
          take embed ⟨depthLimit, none⟩ l text cursor m k count :=
        fun next => Run.andThen_of_some hr
      simp only [follow, Option.getD_none, Nat.zero_sub, Option.getD_some, takeAgain]
      cases limit - count with
      | zero => exact (htake.andThen_of_some hr).congr (by rw [hfirst])
      | succ more => exact (htake.andThen_of_some hr).congr (by rw [hfirst])

theorem embedsLimited_embedded [Engine] {c : Catalogue}
    {scan scan' : Lexer → Text → Cache → Nat → Run Chunk}
    (h : ∀ l text k count, (scan l text k count).Ends →
      Run.Breaks ((scan l text k count).Exceeds limit count) (.matchLimitExceeded limit)
        (scan l text k count) (scan' l text k count)) :
    EmbedsLimited limit (embedded c scan) (embedded c scan') := by
  intro name text k count hends
  unfold embedded at hends ⊢
  cases hd : c.find? name with
  | none => exact ⟨fun _ => rfl, fun hF => absurd rfl hF.1⟩
  | some d =>
    simp only [hd] at hends ⊢
    generalize k.fetch d = fetched at hends ⊢
    obtain ⟨e | l, k⟩ := fetched
    · exact ⟨fun _ => rfl, fun hF => absurd rfl hF.1⟩
    · exact h l text k count hends

end Scan

/-- A scan that ends without a limit is cut short under a limit that its matches exceed. -/
theorem scan_limit [Engine] (c : Catalogue) (depthLimit limit levels : Nat) (l : Lexer)
    (text : Text) (k : Cache) (count : Nat)
    (hends : (scan c ⟨depthLimit, none⟩ levels l text k count).Ends) :
    Run.Cut ((scan c ⟨depthLimit, none⟩ levels l text k count).Exceeds limit count)
      (.matchLimitExceeded limit) (scan c ⟨depthLimit, none⟩ levels l text k count)
      (scan c ⟨depthLimit, some limit⟩ levels l text k count) := by
  induction levels generalizing l text k count with
  | zero =>
    have hrefused : Scan.EmbedsLimited limit (Scan.refused ⟨depthLimit, none⟩)
        (Scan.refused ⟨depthLimit, some limit⟩) :=
      fun _ _ _ _ _ => ⟨fun _ => rfl, fun hF => absurd rfl hF.1⟩
    exact Scan.follow_limit hrefused hends
  | succ levels ih =>
    exact Scan.follow_limit
      (Scan.embedsLimited_embedded fun l text k count hends => (ih l text k count hends).toBreaks)
      hends

/-- A scanner with another match limit. -/
def Scanner.limitedTo (s : Scanner) (limit? : Option Nat) : Scanner :=
  { s with options := { s.options with matchLimit := limit? } }

/-- If a scan ends without a limit, well or not, it goes the same way under any limit that its
matches do not exceed, together with those that were counted before, and also if it counts none. Any
other limit is exceeded, and then a part of the chunks was emitted. -/
theorem scan_limit_exact [Engine] (s : Scanner) (l : Lexer) (source : String) (limit : Nat)
    (hends : ((s.limitedTo none).scan l source).1.Ends) :
    let free := ((s.limitedTo none).scan l source).1
    let limited := ((s.limitedTo (some limit)).scan l source).1
    (free.spent = 0 ∨ s.count + free.spent ≤ limit → limited = free) ∧
      (free.spent ≠ 0 → limit < s.count + free.spent →
        limited.error? = some (.matchLimitExceeded limit) ∧ limited.items <+: free.items) := by
  intro free limited
  have hcut : Run.Cut (free.Exceeds limit s.count) (.matchLimitExceeded limit) free limited :=
    scan_limit _ _ limit _ l _ _ _ hends
  refine ⟨fun hwithin => hcut.same fun hover => ?_, fun hne hlt => ?_⟩
  · obtain ⟨hne, hlt⟩ := hover
    omega
  · exact ⟨hcut.error? ⟨hne, hlt⟩, hcut.isPrefix ⟨hne, hlt⟩⟩

/-- Parentheses with the same inside, and crosses, of which there may be none. -/
def crosses : Definition :=
  ⟨"crosses", "Crosses", .names [],
    [⟨"\\((.*)\\)", .ofList [(1, .language "Crosses")]⟩, ⟨"x*", .ofList [(0, .scope "Run")]⟩]⟩

/-- A scanner for them that has counted three matches before. -/
def crosses.scanner (depthLimit : Nat) : Scanner :=
  ⟨.ofList [crosses], ⟨depthLimit, none⟩, .empty, 3⟩

/-- There is no cross at the start and at the ends of both texts. If no language may be embedded,
the scan fails at its second match, and under a limit it may fail before. -/
theorem scan_limit_exact_crosses : ∃ l, Lexer.compile crosses = .ok l ∧
    let free depthLimit := (((crosses.scanner depthLimit).limitedTo none).scan l "a(x)").1
    let limited depthLimit limit :=
      (((crosses.scanner depthLimit).limitedTo (some limit)).scan l "a(x)").1
    (free 16).Ends ∧ (free 16).spent = 5 ∧ limited 16 8 = free 16 ∧
      (limited 16 7).error? = some (.matchLimitExceeded 7) ∧
      (limited 16 7).items <+: (free 16).items ∧
      (free 0).error? = some (.nestingTooDeep 0) ∧ (free 0).spent = 2 ∧ limited 0 5 = free 0 ∧
      (limited 0 4).error? = some (.matchLimitExceeded 4) := by
  have hscan : (Lexer.compile crosses).toOption.any fun l =>
      (((crosses.scanner 16).limitedTo none).scan l "a(x)").1.error?.isNone &&
      (((crosses.scanner 16).limitedTo none).scan l "a(x)").1.spent = 5 &&
      (((crosses.scanner 0).limitedTo none).scan l "a(x)").1.error? = some (.nestingTooDeep 0) &&
      (((crosses.scanner 0).limitedTo none).scan l "a(x)").1.spent = 2 := by
    decide +kernel
  obtain ⟨l, hl, hscan⟩ := exists_ok_of_any hscan
  simp only [Bool.and_eq_true, decide_eq_true_eq, Option.isNone_iff_eq_none] at hscan
  obtain ⟨⟨⟨hok, hfive⟩, herror⟩, htwo⟩ := hscan
  have hends : (((crosses.scanner 16).limitedTo none).scan l "a(x)").1.Ends := by
    simp [Run.Ends, hok]
  have hends' : (((crosses.scanner 0).limitedTo none).scan l "a(x)").1.Ends := by
    simp [Run.Ends, herror]
  obtain ⟨hsame, -⟩ := scan_limit_exact _ l _ 8 hends
  obtain ⟨-, hcut⟩ := scan_limit_exact _ l _ 7 hends
  obtain ⟨hsame', -⟩ := scan_limit_exact _ l _ 5 hends'
  obtain ⟨-, hcut'⟩ := scan_limit_exact _ l _ 4 hends'
  rw [hfive] at hsame hcut
  rw [htwo] at hsame' hcut'
  obtain ⟨hexceeded, hitems⟩ := hcut (by decide) (by decide)
  exact ⟨l, hl, hends, hfive, hsame (.inr (by decide)), hexceeded, hitems, herror, htwo,
    hsame' (.inr (by decide)), (hcut' (by decide) (by decide)).1⟩

end ScopeLexer
