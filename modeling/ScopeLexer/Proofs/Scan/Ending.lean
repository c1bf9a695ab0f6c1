import ScopeLexer.Proofs.Scan.Containment
import ScopeLexer.Proofs.Scan.Rounds

/-! Scans that end. A language may hand a whole match to itself, so the text of an inner scan need
not be shorter than the one around it; but there is a level less for it. On one level every search
starts behind the one before it, if none finds a match that starts earlier, and a match has only so
many parts. So a scan comes to an end within rounds that can be told beforehand, with its chunks or
with an error, however the languages are embedded in each other. -/

namespace ScopeLexer

open ScopeLexer.Language Regex

variable {α : Type} {c : Catalogue} {o : Options} {k k₀ : Cache} {count : Nat}

namespace Run

variable {r : Run α}

theorem Ends.andThen {next : Cache → Nat → Run α} (h : r.Ends)
    (hn : (next r.cache r.spent).Ends) : (r.andThen next).Ends := by
  cases hr : r.error? with
  | some e =>
    rw [andThen_of_some hr]
    exact h
  | none =>
    rw [andThen_of_none hr]
    exact hn

theorem Ends.counted (h : r.Ends) : (Run.counted o k count r).Ends := by
  rcases counted_cases (α := α) o k count with hs | ⟨_, _, _, hs⟩ <;> rw [hs]
  · exact h
  · exact fun hstalled => nomatch hstalled

theorem ends_done (items : List α) (k : Cache) : (Run.done items k).Ends :=
  fun hstalled => nomatch hstalled

end Run

namespace Scan

variable {embed : Embed} {l : Lexer} {text : Text}

variable [Engine]

/-- Languages end in every text, as long as names have the lexers that they have in `k₀`. -/
def EmbedsEnding (c : Catalogue) (k₀ : Cache) (embed : Embed) : Prop :=
  ∀ name text k count, c.Agrees k₀ k → (embed name text k count).Ends

theorem partScopes_ends (h : EmbedsEnding c k₀ embed) (hk : c.Agrees k₀ k) (start : Nat)
    (part : Span text.size) (target : Target) :
    (partScopes embed text start part target k count).Ends := by
  cases target with
  | scope name => exact Run.ends_done _ k
  | language name => exact h name _ k count hk

/-- The parts of a match come to an end, one after the other. -/
theorem allScopes_ends (h : EmbedsEnding c k₀ embed) (hl : KeepsLexers c embed)
    (hk : c.Agrees k₀ k) (start : Nat) (parts : List (Span text.size × Target)) :
    (allScopes embed text start parts k count).Ends := by
  induction parts generalizing k count with
  | nil => exact Run.ends_done _ k
  | cons p parts ih =>
    exact (partScopes_ends h hk start p.1 p.2).andThen
      (ih (hk.trans (partScopes_agrees hl start p.1 p.2)))

theorem take_ends (h : EmbedsEnding c k₀ embed) (hl : KeepsLexers c embed) (hk : c.Agrees k₀ k)
    (cursor : Nat) {origin : Nat} (m : Match text.size origin) :
    (take embed o l text cursor m k count).Ends :=
  Run.Ends.counted (allScopes_ends h hl hk m.span.start (l.parts m))

/-- Searches that go ahead come to the end of the text. -/
theorem follow_ahead_ends (h : EmbedsEnding c k₀ embed) (hl : KeepsLexers c embed)
    (hk : c.Agrees k₀ k) (hg : l.GoesAhead text) (cursor origin : Nat) :
    (follow embed o l text (l.courseFrom text cursor origin) k count).Ends := by
  fun_induction Lexer.courseFrom l text cursor origin generalizing k count with
  | case1 cursor origin hm => exact Run.ends_done _ k
  | case2 cursor origin m hm he hlt ih =>
    exact (Run.Ends.counted (Run.ends_done _ k)).andThen
      (ih (hk.trans (Run.agrees_counted (.refl c k))))
  | case3 cursor origin m hm he hlt =>
    exact (Run.Ends.counted (Run.ends_done _ k)).andThen (Run.ends_done _ _)
  | case4 cursor origin m hm hne hlt ih =>
    exact (take_ends h hl hk cursor m).andThen (ih (hk.trans (take_agrees hl cursor m)))
  | case5 cursor origin m hm hne hlt =>
    have hstart : origin ≤ m.span.start := hg origin m hm
    have hstop : m.span.start ≤ m.span.stop := m.span.start_le_stop
    omega

theorem embedsEnding_refused (o : Options) : EmbedsEnding c k₀ (refused o) :=
  fun _ _ _ _ _ hstalled => nomatch hstalled

theorem embedsEnding_embedded {scan : Lexer → Text → Cache → Nat → Run Chunk}
    (hc : c.GoesAhead k₀)
    (h : ∀ l text k count, c.Agrees k₀ k → l.GoesAhead text → (scan l text k count).Ends) :
    EmbedsEnding c k₀ (embedded c scan) := by
  intro name text k count hk
  rcases embedded_cases scan hk name text count with
    ⟨e, k', -, hne, hrun⟩ | ⟨l, k', hk', hname, hrun⟩ <;> rw [hrun]
  · exact fun hstalled => hne (Option.some.inj hstalled)
  · exact h l text k' count hk' (hc name l hname text)

end Scan

theorem scan_ends [Engine] (hc : c.GoesAhead k₀) (hk : c.Agrees k₀ k) (levels : Nat) {l : Lexer}
    {text : Text} (hg : l.GoesAhead text) (count : Nat) :
    (scan c o levels l text k count).Ends := by
  induction levels generalizing l text k count with
  | zero =>
    have hrefused : Scan.EmbedsEnding c k₀ _ := Scan.embedsEnding_refused o
    exact Scan.follow_ahead_ends hrefused (Scan.keepsLexers_refused o) hk hg 0 0
  | succ levels ih =>
    have hembedded := Scan.embedsEnding_embedded hc fun l text k count hk hg => ih hk hg count
    exact Scan.follow_ahead_ends hembedded (Scan.keepsLexers_embedded (scan_agrees c o levels)) hk
      hg 0 0

/-- If all searches go ahead, a scan comes to an end within the rounds that are enough for its text,
the levels and the matches that are left; whatever it is at work with, it then leaves chunks or an
error, those of the scan that knows no rounds. -/
theorem Rounds.run_ends [Engine] (c : Catalogue) (o : Options) (l : Lexer) (text : Text)
    (b : Ledger) (hl : l.GoesAhead text) (hc : c.GoesAhead b.cache) (rounds : Nat)
    (henough : b.rounds o text.size 0 ≤ rounds) :
    (run c o rounds l text 0 0 b).Ends ∧
      run c o rounds l text 0 0 b =
        (scan c o (o.depthLimit - b.depth) l text b.cache b.count).booked b := by
  have hends : (scan c o (o.depthLimit - b.depth) l text b.cache b.count).Ends :=
    scan_ends hc (.refl c b.cache) _ hl b.count
  have htells := run_tells_scan rounds l text b (.inr ⟨henough, hends⟩)
  rw [htells]
  exact ⟨hends, rfl⟩

/-- A language that hands all that it matches to itself. -/
def echo : Definition := ⟨"echo", "Echo", .names [], [⟨"(.*)", .ofList [(1, .language "echo")]⟩]⟩

/-- With three levels sixteen rounds are enough for two characters. -/
theorem Rounds.run_ends_echo : ∃ l, Lexer.compile echo = .ok l ∧
    l.GoesAhead (Text.ofString "ab") ∧ (Catalogue.ofList [echo]).GoesAhead .empty ∧
    (⟨.empty, 0, 0⟩ : Ledger).rounds ⟨3, none⟩ (Text.ofString "ab").size 0 = 16 ∧
    (run (.ofList [echo]) ⟨3, none⟩ 16 l (Text.ofString "ab") 0 0 ⟨.empty, 0, 0⟩).Ends ∧
    (run (.ofList [echo]) ⟨3, none⟩ 16 l (Text.ofString "ab") 0 0 ⟨.empty, 0, 0⟩).error? =
      some (.nestingTooDeep 3) ∧
    (run (.ofList [echo]) ⟨3, none⟩ 16 l (Text.ofString "ab") 0 0 ⟨.empty, 0, 0⟩).ledger.count =
      4 := by
  have hscan : (Lexer.compile echo).toOption.any fun l =>
      (scan (.ofList [echo]) ⟨3, none⟩ 3 l (Text.ofString "ab") .empty 0).error? =
          some (.nestingTooDeep 3) &&
        (scan (.ofList [echo]) ⟨3, none⟩ 3 l (Text.ofString "ab") .empty 0).spent = 4 := by
    decide +kernel
  have hp : echo.isPlain := by decide +kernel
  have hplain : (Catalogue.ofList [echo]).definitions.all (·.isPlain) := by decide +kernel
  obtain ⟨l, hl, hscan⟩ := exists_ok_of_any hscan
  simp only [Bool.and_eq_true, decide_eq_true_eq] at hscan
  obtain ⟨herror, hspent⟩ := hscan
  have hg := Lexer.goesAhead_of_plain hl hp (Text.ofString "ab")
  have hc := Catalogue.goesAhead_of_plain (List.all_eq_true.1 hplain)
  have hrounds : (⟨.empty, 0, 0⟩ : Ledger).rounds ⟨3, none⟩ (Text.ofString "ab").size 0 = 16 := by
    decide
  obtain ⟨hends, hrun⟩ := run_ends (.ofList [echo]) ⟨3, none⟩ l (Text.ofString "ab")
    ⟨.empty, 0, 0⟩ hg hc 16 (Nat.le_of_eq hrounds)
  refine ⟨l, hl, hg, hc, hrounds, hends, ?_, ?_⟩ <;> rw [hrun]
  · exact herror
  · exact (Nat.zero_add _).trans hspent

end ScopeLexer
