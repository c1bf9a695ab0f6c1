import ScopeLexer.Proofs.Scan.Rounds
import ScopeLexer.Session
import ScopeLexer.Regex.Search

/-! Scanners used again. A scanner goes from text to text with its ledger. However a scan ends, at
whatever depth an error comes up, no language is open afterwards; so all that is left of it are the
lexers it has made and the matches it has counted. Without a limit nobody looks at the matches, and
the scanner does what a new one does that is given the lexers. -/

namespace ScopeLexer

open ScopeLexer.Language Regex

/-- A text to be scanned with a lexer, be it to emit its chunks or to return them. -/
structure Job where
  lexer : Lexer
  source : String

/-- The scanner after some jobs. -/
def Scanner.after [Engine] (s : Scanner) (jobs : List Job) : Scanner :=
  jobs.foldl (fun s j => (s.scan j.lexer j.source).2) s

/-! ### Matches counted before -/

/-- The same ledger with `n` more matches counted. -/
def Ledger.later (n : Nat) (b : Ledger) : Ledger := { b with count := b.count + n }

namespace Stretch

variable {α β : Type} {n : Nat} {f g : Ledger → Stretch α} {s : Stretch α}

def later (n : Nat) (s : Stretch α) : Stretch α := { s with ledger := s.ledger.later n }

/-- Matches that were counted before change nothing but the count. -/
def IgnoresCount (n : Nat) (f : Ledger → Stretch α) : Prop := ∀ b, f (b.later n) = (f b).later n

theorem ignoresCount_done (items : List α) : IgnoresCount n (done items) := fun _ => rfl

theorem ignoresCount_failed (e : Error) : IgnoresCount (α := α) n (failed e) := fun _ => rfl

theorem later_andThen (hg : IgnoresCount n g) : (s.later n).andThen g = (s.andThen g).later n := by
  cases hs : s.error? with
  | some e =>
    rw [andThen_of_some hs]
    exact andThen_of_some hs
  | none =>
    have hlater : (s.later n).error? = none := hs
    have hnext : g (s.later n).ledger = (g s.ledger).later n := hg s.ledger
    rw [andThen_of_none hs, andThen_of_none hlater, hnext]
    rfl

theorem IgnoresCount.andThen (hf : IgnoresCount n f) (hg : IgnoresCount n g) :
    IgnoresCount n fun b => (f b).andThen g := by
  intro b
  show (f (b.later n)).andThen g = _
  rw [hf b, later_andThen hg]

end Stretch

namespace Rounds

open Stretch

variable {n : Nat} {c : Catalogue} {o : Options} {inner : String → Text → Ledger → Stretch Scope}
  {l : Lexer} {text : Text}

theorem countMatch_ignoresCount (ho : o.matchLimit = none) : IgnoresCount n (countMatch o) := by
  intro b
  have hcounted : (b.later n).counted = b.counted.later n := by
    simp only [Ledger.later, Ledger.counted, Nat.add_right_comm]
  simp only [countMatch, ho, hcounted]
  rfl

theorem nested_ignoresCount [Engine] {run : Lexer → Text → Ledger → Stretch Chunk}
    (h : ∀ l text, IgnoresCount n (run l text)) (name : String) (text : Text) :
    IgnoresCount n (nested c o run name text) := by
  intro b
  have hcache : (b.later n).cache = b.cache := rfl
  have hdepth : (b.later n).depth = b.depth := rfl
  unfold nested
  rw [hcache, hdepth]
  split
  · rfl
  · cases c.find? name with
    | none => rfl
    | some d =>
      simp only
      obtain ⟨e | l, cache⟩ := b.cache.fetch d
      · rfl
      · have hrun := h l text { b with cache, depth := b.depth + 1 }
        simp only [Ledger.later] at hrun ⊢
        rw [hrun]
        rfl

theorem partScopes_ignoresCount (h : ∀ name text, IgnoresCount n (inner name text)) (start : Nat)
    (part : Span text.size) (target : Target) :
    IgnoresCount n (partScopes inner text start part target) := by
  intro b
  cases target with
  | scope name => rfl
  | language name =>
    rw [partScopes, partScopes, h name _ b]
    rfl

theorem allScopes_ignoresCount (h : ∀ name text, IgnoresCount n (inner name text)) (start : Nat)
    (parts : List (Span text.size × Target)) :
    IgnoresCount n (allScopes inner text start parts) := by
  induction parts with
  | nil => exact ignoresCount_done []
  | cons p parts ih => exact (partScopes_ignoresCount h start p.1 p.2).andThen ih

theorem emitMatch_ignoresCount (h : ∀ name text, IgnoresCount n (inner name text)) {origin : Nat}
    (m : Match text.size origin) : IgnoresCount n (emitMatch inner l text m) := by
  intro b
  rw [emitMatch, emitMatch, allScopes_ignoresCount h m.span.start (l.parts m) b]
  obtain ⟨items, _ | e, b'⟩ := allScopes inner text m.span.start (l.parts m) b <;> rfl

theorem take_ignoresCount (ho : o.matchLimit = none)
    (h : ∀ name text, IgnoresCount n (inner name text)) (cursor : Nat) {origin : Nat}
    (m : Match text.size origin) : IgnoresCount n (take o inner l text cursor m) :=
  (countMatch_ignoresCount ho).andThen ((ignoresCount_done _).andThen (emitMatch_ignoresCount h m))

variable [Engine]

/-- Without a limit a scan does not depend on what was counted before it. -/
theorem run_ignoresCount (ho : o.matchLimit = none) (rounds : Nat) (l : Lexer) (text : Text)
    (cursor origin : Nat) : IgnoresCount n (run c o rounds l text cursor origin) := by
  induction rounds generalizing l text cursor origin with
  | zero => exact ignoresCount_failed .stalled
  | succ rounds ih =>
    intro b
    unfold run round
    split
    · rfl
    · next m _ =>
      split
      · refine (countMatch_ignoresCount ho).andThen (fun b => ?_) b
        split
        · exact ih l text cursor _ b
        · rfl
      · have hinner := nested_ignoresCount (c := c) (o := o) fun l text => ih l text 0 0
        exact (take_ignoresCount ho hinner cursor m).andThen (ih l text _ _) b

/-! ### Jobs in rounds -/

def runJob (c : Catalogue) (o : Options) (rounds : Nat) (b : Ledger) (j : Job) : Stretch Chunk :=
  run c o rounds j.lexer (Text.ofString j.source) 0 0 b

/-- The ledger after some jobs. -/
def after (c : Catalogue) (o : Options) (rounds : Nat) (b : Ledger) (jobs : List Job) : Ledger :=
  jobs.foldl (fun b j => (runJob c o rounds b j).ledger) b

/-- The rounds are enough for each of the jobs. -/
def endsAll (c : Catalogue) (o : Options) (rounds : Nat) : Ledger → List Job → Bool
  | _, [] => true
  | b, j :: jobs =>
    let s := runJob c o rounds b j
    s.error? ≠ some .stalled && endsAll c o rounds s.ledger jobs

theorem after_depth (rounds : Nat) (b : Ledger) (jobs : List Job) :
    (after c o rounds b jobs).depth = b.depth := by
  induction jobs generalizing b with
  | nil => rfl
  | cons j jobs ih => exact (ih _).trans (run_depth rounds j.lexer _ 0 0 b)

theorem after_eq {rounds : Nat} {k : Cache} {count : Nat} {jobs : List Job}
    (h : endsAll c o rounds ⟨k, 0, count⟩ jobs = true) :
    let s := Scanner.after ⟨c, o, k, count⟩ jobs
    after c o rounds ⟨k, 0, count⟩ jobs = ⟨s.cache, 0, s.count⟩ := by
  induction jobs generalizing k count with
  | nil => rfl
  | cons j jobs ih =>
    simp only [endsAll, Bool.and_eq_true, decide_eq_true_eq] at h
    obtain ⟨hends, hrest⟩ := h
    have hrun : runJob c o rounds ⟨k, 0, count⟩ j = _ :=
      run_tells_scan rounds j.lexer (Text.ofString j.source) ⟨k, 0, count⟩ (.inl hends)
    rw [hrun] at hrest
    show after c o rounds (runJob c o rounds ⟨k, 0, count⟩ j).ledger jobs = _
    rw [hrun]
    exact ih hrest

/-- Between jobs a scanner differs from a new one in nothing that counts but its lexers. -/
theorem runJob_new (ho : o.matchLimit = none) {b : Ledger} (hb : b.depth = 0) (rounds : Nat)
    (j : Job) : runJob c o rounds b j = (runJob c o rounds ⟨b.cache, 0, 0⟩ j).later b.count := by
  have hlater : b = (⟨b.cache, 0, 0⟩ : Ledger).later b.count := by
    rw [Ledger.later, Nat.zero_add, ← hb]
  have hnew := run_ignoresCount (n := b.count) (c := c) ho rounds j.lexer
    (Text.ofString j.source) 0 0 ⟨b.cache, 0, 0⟩
  rw [← hlater] at hnew
  exact hnew

end Rounds

namespace Scanner

section

variable [Engine]

theorem after_eq (s : Scanner) (jobs : List Job) :
    s.after jobs = ⟨s.catalogue, s.options, (s.after jobs).cache, (s.after jobs).count⟩ := by
  induction jobs generalizing s with
  | nil => rfl
  | cons j jobs ih => exact ih (s.scan j.lexer j.source).2

variable {c : Catalogue} {o : Options}

theorem scan_new (ho : o.matchLimit = none) (k : Cache) (count : Nat) (l : Lexer)
    (source : String) :
    (scan ⟨c, o, k, 0⟩ l source).1.Alike c id (scan ⟨c, o, k, count⟩ l source).1 :=
  scan_alike (.id rfl) o.depthLimit l _ (.refl c k) ⟨rfl, .inl ho⟩

/-- Whatever became of the jobs of a scanner, no language is open after them, not even if a job was
cut short after some rounds; and its ledger is what the scans have left. If matches are not limited,
the next job goes, round by round, as it does with a new scanner that is given the lexers made so
far: it emits the same chunks and ends with the same error, or returns the same. -/
theorem scan_after (c : Catalogue) (o : Options) (k : Cache) (jobs : List Job) :
    let s := after ⟨c, o, k, 0⟩ jobs
    (∀ rounds, let b := Rounds.after c o rounds ⟨k, 0, 0⟩ jobs
      b.depth = 0 ∧
      (Rounds.endsAll c o rounds ⟨k, 0, 0⟩ jobs = true → b = ⟨s.cache, 0, s.count⟩) ∧
      (o.matchLimit = none → ∀ rounds' j,
        (Rounds.runJob c o rounds' b j).items =
            (Rounds.runJob c o rounds' ⟨b.cache, 0, 0⟩ j).items ∧
          (Rounds.runJob c o rounds' b j).error? =
            (Rounds.runJob c o rounds' ⟨b.cache, 0, 0⟩ j).error?)) ∧
    (o.matchLimit = none → ∀ l source,
      (s.scan l source).1.items = (scan ⟨c, o, s.cache, 0⟩ l source).1.items ∧
      (s.scan l source).1.error? = (scan ⟨c, o, s.cache, 0⟩ l source).1.error? ∧
      (s.scan l source).1.result = (scan ⟨c, o, s.cache, 0⟩ l source).1.result) := by
  intro s
  refine ⟨fun rounds => ?_, fun ho l source => ?_⟩
  · have hdepth := Rounds.after_depth (c := c) (o := o) rounds ⟨k, 0, 0⟩ jobs
    refine ⟨hdepth, Rounds.after_eq, fun ho rounds' j => ?_⟩
    rw [Rounds.runJob_new ho hdepth]
    exact ⟨rfl, rfl⟩
  · have hs : s = ⟨c, o, s.cache, s.count⟩ := after_eq ⟨c, o, k, 0⟩ jobs
    have hnew := scan_new (c := c) ho s.cache s.count l source
    rw [← hs] at hnew
    have herror := hnew.error?
    rw [Option.map_id, id] at herror
    refine ⟨hnew.items, herror, ?_⟩
    rw [Run.result, Run.result, herror, hnew.items]

end

/-- Parentheses with the same inside, brackets with what nobody knows, and angles with faults. -/
def fences : Definition :=
  ⟨"fences", "Fences", .names [],
    [⟨"\\((.*)\\)", .ofList [(1, .language "fences")]⟩,
      ⟨"\\[(.*)\\]", .ofList [(1, .language "nowhere")]⟩,
      ⟨"<(.*)>", .ofList [(1, .language "faulty")]⟩]⟩

def fences.catalogue : Catalogue :=
  .ofList [fences, ⟨"faulty", "Faulty", .names [], [⟨"(", .empty⟩]⟩]

def fences.jobs (l : Lexer) : List Job := [⟨l, "(((a)))"⟩, ⟨l, "([a])"⟩, ⟨l, "(<a>)"⟩]

/-- A scanner that has done the first `n` jobs. -/
def fences.scanner (l : Lexer) (n : Nat) : Scanner :=
  after ⟨fences.catalogue, ⟨2, none⟩, .empty, 0⟩ ((fences.jobs l).take n)

/-- The jobs fail inside parentheses, each for another reason; the next one goes well. -/
theorem scan_after_fences : ∃ l, Lexer.compile fences = .ok l ∧
    ((fences.scanner l 0).scan l "(((a)))").1.error? = some (.nestingTooDeep 2) ∧
    ((fences.scanner l 1).scan l "([a])").1.error? = some (.languageNotFound "nowhere") ∧
    ((fences.scanner l 2).scan l "(<a>)").1.error?.bind (·.grammar?) = some "faulty" ∧
    Rounds.after fences.catalogue ⟨2, none⟩ 20 ⟨.empty, 0, 0⟩ (fences.jobs l) =
      ⟨(fences.scanner l 3).cache, 0, 7⟩ ∧
    ((fences.scanner l 3).scan l "x(y)").1.items.map (·.text) = ["x", "(y)"] ∧
    ((fences.scanner l 3).scan l "x(y)").1.result =
      (scan ⟨fences.catalogue, ⟨2, none⟩, (fences.scanner l 3).cache, 0⟩ l "x(y)").1.result := by
  have hscan : (Lexer.compile fences).toOption.any fun l =>
      ((fences.scanner l 0).scan l "(((a)))").1.error? = some (.nestingTooDeep 2) &&
      ((fences.scanner l 1).scan l "([a])").1.error? = some (.languageNotFound "nowhere") &&
      ((fences.scanner l 2).scan l "(<a>)").1.error?.bind (·.grammar?) = some "faulty" &&
      Rounds.endsAll fences.catalogue ⟨2, none⟩ 20 ⟨.empty, 0, 0⟩ (fences.jobs l) &&
      (fences.scanner l 3).count = 7 &&
      ((fences.scanner l 3).scan l "x(y)").1.items.map (·.text) = ["x", "(y)"] := by
    decide +kernel
  obtain ⟨l, hl, hscan⟩ := exists_ok_of_any hscan
  simp only [Bool.and_eq_true, decide_eq_true_eq] at hscan
  obtain ⟨⟨⟨⟨⟨hdeep, hnowhere⟩, hfaulty⟩, hends⟩, hcount⟩, hitems⟩ := hscan
  obtain ⟨hrounds, hnew⟩ := scan_after fences.catalogue ⟨2, none⟩ .empty (fences.jobs l)
  obtain ⟨-, hledger, -⟩ := hrounds 20
  obtain ⟨-, -, hresult⟩ := hnew rfl l "x(y)"
  have hafter : Rounds.after fences.catalogue ⟨2, none⟩ 20 ⟨.empty, 0, 0⟩ (fences.jobs l) =
      ⟨(fences.scanner l 3).cache, 0, (fences.scanner l 3).count⟩ := hledger hends
  rw [hcount] at hafter
  exact ⟨l, hl, hdeep, hnowhere, hfaulty, hafter, hitems, hresult⟩

end Scanner

end ScopeLexer
