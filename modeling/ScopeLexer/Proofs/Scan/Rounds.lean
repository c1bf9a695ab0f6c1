import ScopeLexer.Proofs.Scan.Alike
import ScopeLexer.Proofs.Scan.Call

/-! Scans in rounds. A scanner at work keeps a ledger: the lexers it has made, how many languages
are open inside each other, and how many matches it has counted. It searches, counts and emits round
after round; a part of a match in another language opens a scan of its own, one deeper, which is
refused where no more languages may be open. The rounds that may follow each other, those of inner
scans included, are rationed here, and a scan that needs more of them stalls. Whatever ends within
its rounds leaves what the scan leaves that knows no ledger and no rounds; and that one ends just
when some number of rounds is enough. -/

namespace ScopeLexer

open ScopeLexer.Language Regex

structure Ledger where
  cache : Cache
  depth : Nat
  count : Nat

def Ledger.counted (b : Ledger) : Ledger := { b with count := b.count + 1 }

/-- What a stretch of work leaves: the items found, the error that cut it short if there is one, and
the ledger. -/
structure Stretch (α : Type) where
  items : List α
  error? : Option Error
  ledger : Ledger

namespace Stretch

variable {α β : Type}

def done (items : List α) (b : Ledger) : Stretch α := ⟨items, none, b⟩

def failed (e : Error) (b : Ledger) : Stretch α := ⟨[], some e, b⟩

def andThen (s : Stretch α) (next : Ledger → Stretch α) : Stretch α :=
  match s.error? with
  | some _ => s
  | none =>
    let t := next s.ledger
    ⟨s.items ++ t.items, t.error?, t.ledger⟩

def mapItems (f : List α → List β) (s : Stretch α) : Stretch β := ⟨f s.items, s.error?, s.ledger⟩

end Stretch

/-! ### The rounds of a scan -/

namespace Rounds

/-- Raises the count, and then looks at the limit. -/
def countMatch (o : Options) (b : Ledger) : Stretch Chunk :=
  match o.matchLimit with
  | some limit =>
    if limit < b.counted.count then .failed (.matchLimitExceeded limit) b.counted
    else .done [] b.counted
  | none => .done [] b.counted

variable [Engine]

/-- The scopes that a language finds in a text of its own. The level that is opened for it is closed
on every way out. -/
def nested (c : Catalogue) (o : Options) (run : Lexer → Text → Ledger → Stretch Chunk)
    (name : String) (text : Text) (b : Ledger) : Stretch Scope :=
  if o.depthLimit ≤ b.depth then .failed (.nestingTooDeep o.depthLimit) b
  else
    match c.find? name with
    | none => .failed (.languageNotFound name) b
    | some d =>
      match b.cache.fetch d with
      | (.error e, cache) => .failed e { b with cache }
      | (.ok l, cache) =>
        let s := run l text { b with cache, depth := b.depth + 1 }
        ⟨Chunk.scopesFrom 0 s.items, s.error?, { s.ledger with depth := s.ledger.depth - 1 }⟩

/-- The scopes of one part of a match, counted from the character at `start`. -/
def partScopes (inner : String → Text → Ledger → Stretch Scope) (text : Text) (start : Nat)
    (part : Span text.size) (target : Target) (b : Ledger) : Stretch Scope :=
  let offset := text.width start part.start
  match target with
  | .scope name => .done [.leaf name offset (text.width part.start part.stop)] b
  | .language name =>
    (inner name (text.extract part.start part.stop) b).mapItems (·.map (Scope.shift offset))

def allScopes (inner : String → Text → Ledger → Stretch Scope) (text : Text) (start : Nat) :
    List (Span text.size × Target) → Ledger → Stretch Scope
  | [], b => .done [] b
  | (part, target) :: parts, b =>
    (partScopes inner text start part target b).andThen (allScopes inner text start parts)

/-- Emits a match with its scopes, unless an error in a part of it comes first. -/
def emitMatch (inner : String → Text → Ledger → Stretch Scope) (l : Lexer) (text : Text)
    {origin : Nat} (m : Match text.size origin) (b : Ledger) : Stretch Chunk :=
  let s := allScopes inner text m.span.start (l.parts m) b
  match s.error? with
  | some e => .failed e s.ledger
  | none => .done [⟨text.slice m.span.start m.span.stop, Scope.forest s.items⟩] s.ledger

/-- Counts a match, emits the gap before it, and emits the match. -/
def take (o : Options) (inner : String → Text → Ledger → Stretch Scope) (l : Lexer) (text : Text)
    (cursor : Nat) {origin : Nat} (m : Match text.size origin) (b : Ledger) : Stretch Chunk :=
  (countMatch o b).andThen fun b =>
    (Stretch.done (Scan.gap text cursor m.span.start) b).andThen (emitMatch inner l text m)

/-- One round: searches from `origin` on, and leaves what comes after the match, and the scans
inside it, to `next`. What lies before `cursor` is emitted. -/
def round (c : Catalogue) (o : Options)
    (next : Lexer → Text → (cursor origin : Nat) → Ledger → Stretch Chunk) (l : Lexer) (text : Text)
    (cursor origin : Nat) (b : Ledger) : Stretch Chunk :=
  match l.regex.search text origin with
  | none => .done (Scan.gap text cursor text.size) b
  | some m =>
    if m.span.start = m.span.stop then
      (countMatch o b).andThen fun b =>
        if m.span.stop < text.size then next l text cursor (m.span.stop + 1) b
        else .done (Scan.gap text cursor text.size) b
    else
      let inner := nested c o fun l text b => next l text 0 0 b
      (take o inner l text cursor m b).andThen fun b => next l text m.span.stop m.span.stop b

/-- A scan with so many rounds left, those of the scans inside it included. -/
def run (c : Catalogue) (o : Options) : (rounds : Nat) → Lexer → Text →
    (cursor origin : Nat) → Ledger → Stretch Chunk
  | 0, _, _, _, _, b => .failed .stalled b
  | rounds + 1, l, text, cursor, origin, b => round c o (run c o rounds) l text cursor origin b

/-- The same scan, which makes sure at each round that no more languages are open than are allowed,
and stalls if there are more. -/
def runWithin (c : Catalogue) (o : Options) : (rounds : Nat) → Lexer → Text →
    (cursor origin : Nat) → Ledger → Stretch Chunk
  | 0, _, _, _, _, b => .failed .stalled b
  | rounds + 1, l, text, cursor, origin, b =>
    if b.depth ≤ o.depthLimit then round c o (runWithin c o rounds) l text cursor origin b
    else .failed .stalled b

end Rounds

variable {α β : Type} {c : Catalogue} {o : Options} {b : Ledger}

/-! ### Levels -/

namespace Rounds

theorem andThen_depth {s : Stretch α} {next : Ledger → Stretch α} {depth : Nat}
    (hs : s.ledger.depth = depth) (hn : ∀ b, b.depth = depth → (next b).ledger.depth = depth) :
    (s.andThen next).ledger.depth = depth := by
  unfold Stretch.andThen
  cases s.error? with
  | some e => exact hs
  | none => exact hn s.ledger hs

theorem andThen_congr {s : Stretch α} {next next' : Ledger → Stretch α}
    (h : ∀ b, b.depth = s.ledger.depth → next b = next' b) : s.andThen next = s.andThen next' := by
  unfold Stretch.andThen
  cases s.error? with
  | some e => rfl
  | none => rw [h s.ledger rfl]

theorem countMatch_depth (o : Options) (b : Ledger) : (countMatch o b).ledger.depth = b.depth := by
  unfold countMatch
  split
  · split <;> rfl
  · rfl

/-- The level opened for a language is closed again, whether its scan fails or not. -/
theorem nested_depth [Engine] {run : Lexer → Text → Ledger → Stretch Chunk}
    (h : ∀ l text b, (run l text b).ledger.depth = b.depth) (name : String) (text : Text)
    (b : Ledger) : (nested c o run name text b).ledger.depth = b.depth := by
  unfold nested
  split
  · rfl
  · cases c.find? name with
    | none => rfl
    | some d =>
      simp only
      obtain ⟨e | l, cache⟩ := b.cache.fetch d
      · rfl
      · simp only [h, Nat.add_sub_cancel]

variable {inner : String → Text → Ledger → Stretch Scope} {l : Lexer} {text : Text}

theorem partScopes_depth (h : ∀ name text b, (inner name text b).ledger.depth = b.depth)
    (start : Nat) (part : Span text.size) (target : Target) (b : Ledger) :
    (partScopes inner text start part target b).ledger.depth = b.depth := by
  cases target with
  | scope name => rfl
  | language name => exact h name _ b

theorem allScopes_depth (h : ∀ name text b, (inner name text b).ledger.depth = b.depth)
    (start : Nat) (parts : List (Span text.size × Target)) (b : Ledger) :
    (allScopes inner text start parts b).ledger.depth = b.depth := by
  induction parts generalizing b with
  | nil => rfl
  | cons p parts ih =>
    exact andThen_depth (partScopes_depth h start p.1 p.2 b) fun b' hb' => (ih b').trans hb'

theorem emitMatch_depth (h : ∀ name text b, (inner name text b).ledger.depth = b.depth)
    {origin : Nat} (m : Match text.size origin) (b : Ledger) :
    (emitMatch inner l text m b).ledger.depth = b.depth := by
  have hscopes := allScopes_depth h m.span.start (l.parts m) b
  unfold emitMatch
  simp only
  split <;> exact hscopes

theorem take_depth (h : ∀ name text b, (inner name text b).ledger.depth = b.depth) (cursor : Nat)
    {origin : Nat} (m : Match text.size origin) (b : Ledger) :
    (take o inner l text cursor m b).ledger.depth = b.depth :=
  andThen_depth (countMatch_depth o b) fun _ hb =>
    andThen_depth hb fun b' hb' => (emitMatch_depth h m b').trans hb'

variable [Engine] {next next' : Lexer → Text → (cursor origin : Nat) → Ledger → Stretch Chunk}

theorem round_depth
    (h : ∀ l text cursor origin b, (next l text cursor origin b).ledger.depth = b.depth)
    (l : Lexer) (text : Text) (cursor origin : Nat) (b : Ledger) :
    (round c o next l text cursor origin b).ledger.depth = b.depth := by
  unfold round
  split
  · rfl
  · next m _ =>
    split
    · refine andThen_depth (countMatch_depth o b) fun b' hb' => ?_
      split
      · exact (h ..).trans hb'
      · exact hb'
    · have hinner := nested_depth (c := c) (o := o) fun l text b => h l text 0 0 b
      exact andThen_depth (take_depth hinner cursor m b) fun b' hb' => (h ..).trans hb'

/-- However a scan ends, and also if it runs out of rounds, as many languages are open afterwards as
before. -/
theorem run_depth (rounds : Nat) (l : Lexer) (text : Text) (cursor origin : Nat) (b : Ledger) :
    (run c o rounds l text cursor origin b).ledger.depth = b.depth := by
  induction rounds generalizing l text cursor origin b with
  | zero => rfl
  | succ rounds ih => exact round_depth ih l text cursor origin b

/-- A language is opened only where one more is allowed. -/
theorem nested_congr {run run' : Lexer → Text → Ledger → Stretch Chunk}
    (h : ∀ l text b, b.depth ≤ o.depthLimit → run l text b = run' l text b) :
    nested c o run = nested c o run' := by
  funext name text b
  unfold nested
  split
  · rfl
  · next hlt =>
    cases c.find? name with
    | none => rfl
    | some d =>
      simp only
      obtain ⟨e | l, cache⟩ := b.cache.fetch d
      · rfl
      · simp only [h l text { b with cache, depth := b.depth + 1 } (Nat.lt_of_not_le hlt)]

theorem round_congr
    (h : ∀ l text cursor origin b, b.depth ≤ o.depthLimit →
      next l text cursor origin b = next' l text cursor origin b)
    (hdepth : ∀ l text cursor origin b, (next' l text cursor origin b).ledger.depth = b.depth)
    (l : Lexer) (text : Text) (cursor origin : Nat) (hb : b.depth ≤ o.depthLimit) :
    round c o next l text cursor origin b = round c o next' l text cursor origin b := by
  unfold round
  split
  · rfl
  · next m _ =>
    split
    · refine andThen_congr fun b' hb' => ?_
      rw [h _ _ _ _ b' (hb'.trans (countMatch_depth o b) ▸ hb)]
    · have hinner := nested_depth (c := c) (o := o) fun l text b => hdepth l text 0 0 b
      simp only [nested_congr (c := c) fun l text b => h l text 0 0 b]
      refine andThen_congr fun b' hb' => ?_
      rw [h _ _ _ _ b' (hb'.trans (take_depth hinner cursor m b) ▸ hb)]

/-- At no round are more languages open than are allowed. -/
theorem runWithin_eq_run (rounds : Nat) (l : Lexer) (text : Text) (cursor origin : Nat) {b : Ledger}
    (h : b.depth ≤ o.depthLimit) :
    runWithin c o rounds l text cursor origin b = run c o rounds l text cursor origin b := by
  induction rounds generalizing l text cursor origin b with
  | zero => rfl
  | succ rounds ih =>
    rw [runWithin, if_pos h, run]
    exact round_congr (fun l text cursor origin b hb => ih l text cursor origin hb)
      (run_depth rounds) l text cursor origin h

end Rounds

/-! ### Ends -/

def Stretch.Ends (s : Stretch α) : Prop := s.error? ≠ some .stalled

/-- It comes to an end, well or not, and does not meet the same match again and again. -/
def Run.Ends (r : Run α) : Prop := r.error? ≠ some .stalled

theorem Run.Ends.of_andThen {r : Run α} {next : Cache → Nat → Run α} (h : (r.andThen next).Ends) :
    r.Ends := by
  intro hr
  rw [Ends, andThen_of_some hr] at h
  exact h hr

/-- What a run leaves when it starts with the ledger `b`. -/
def Run.booked (b : Ledger) (r : Run α) : Stretch α :=
  ⟨r.items, r.error?, ⟨r.cache, b.depth, b.count + r.spent⟩⟩

/-- A stretch that ends leaves what the run leaves; and if the rounds are enough for it, it ends
when the run does. -/
def Stretch.Tells (enough : Prop) (b : Ledger) (s : Stretch α) (r : Run α) : Prop :=
  s.Ends ∨ enough ∧ r.Ends → s = r.booked b

namespace Stretch

variable {P Q : Prop} {s : Stretch α} {r : Run α} {next : Ledger → Stretch α}
  {next' : Cache → Nat → Run α}

theorem andThen_of_some {e : Error} (h : s.error? = some e) : s.andThen next = s := by
  rw [andThen, h]

theorem andThen_of_none (h : s.error? = none) :
    s.andThen next = ⟨s.items ++ (next s.ledger).items, (next s.ledger).error?,
      (next s.ledger).ledger⟩ := by
  rw [andThen, h]

theorem Ends.of_andThen (h : (s.andThen next).Ends) : s.Ends := by
  intro hs
  rw [Ends, andThen_of_some hs] at h
  exact h hs

theorem Tells.mono (h : s.Tells Q b r) (hPQ : P → Q) : s.Tells P b r :=
  fun hends => h (hends.imp_right (And.imp_left hPQ))

theorem Tells.mapItems (h : s.Tells P b r) (f : List α → List β) :
    (s.mapItems f).Tells P b (r.mapItems f) := by
  intro hends
  have hs : s = r.booked b := h hends
  rw [hs]
  rfl

theorem Tells.andThen (h : s.Tells P b r)
    (hn : r.error? = none → (next (r.booked b).ledger).Tells P (r.booked b).ledger
      (next' r.cache r.spent)) : (s.andThen next).Tells P b (r.andThen next') := by
  intro hends
  have hfirst := hends.imp Ends.of_andThen (And.imp_right Run.Ends.of_andThen)
  obtain rfl : s = r.booked b := h hfirst
  cases hr : r.error? with
  | some e =>
    rw [Run.andThen_of_some hr]
    exact andThen_of_some hr
  | none =>
    have hs : (r.booked b).error? = none := hr
    rw [andThen_of_none hs, Run.andThen_of_none hr] at hends ⊢
    rw [hn hr hends]
    simp only [Run.booked, Nat.add_assoc]

theorem done_nil_andThen (b : Ledger) (next : Ledger → Stretch α) :
    (done [] b).andThen next = next b := by
  rw [andThen_of_none rfl]
  rfl

end Stretch

theorem Run.booked_spend (b : Ledger) (r : Run α) : r.spend.booked b = r.booked b.counted := by
  simp only [booked, spend, Ledger.counted, Nat.add_assoc, Nat.add_comm 1]

namespace Rounds

variable {P : Prop} {inner : String → Text → Ledger → Stretch Scope} {embed : Scan.Embed}
  {l : Lexer} {text : Text}

theorem countMatch_tells {next : Ledger → Stretch Chunk} {r : Run Chunk}
    (h : (next b.counted).Tells P b.counted r) :
    ((countMatch o b).andThen next).Tells P b (Run.counted o b.cache b.count r) := by
  have hcounted : (next b.counted).Tells P b r.spend := by
    intro hends
    rw [h hends, Run.booked_spend]
  unfold countMatch Run.counted
  cases o.matchLimit with
  | none =>
    rw [Stretch.done_nil_andThen]
    exact hcounted
  | some limit =>
    have hlt : limit < b.counted.count ↔ limit ≤ b.count := Nat.lt_succ_iff
    by_cases hle : limit ≤ b.count
    · simp only [hlt, hle, if_true]
      exact fun _ => rfl
    · simp only [hlt, hle, if_false, Stretch.done_nil_andThen]
      exact hcounted

/-- Languages that in texts of at most `n` characters leave what their runs leave. -/
def InnerTells (P : Prop) (n depth : Nat) (inner : String → Text → Ledger → Stretch Scope)
    (embed : Scan.Embed) : Prop :=
  ∀ name text b, text.size ≤ n → b.depth = depth → (inner name text b).Tells P b
    ((embed name text b.cache b.count).mapItems (Chunk.scopesFrom 0))

theorem partScopes_tells (h : InnerTells P text.size b.depth inner embed) (start : Nat)
    (part : Span text.size) (target : Target) :
    (partScopes inner text start part target b).Tells P b
      (Scan.partScopes embed text start part target b.cache b.count) := by
  cases target with
  | scope name => exact fun _ => rfl
  | language name =>
    have hsize : (text.extract part.start part.stop).size ≤ text.size := by
      rw [Array.size_extract]
      omega
    exact (h name _ b hsize rfl).mapItems (·.map (Scope.shift (text.width start part.start)))

theorem allScopes_tells (h : InnerTells P text.size b.depth inner embed) (start : Nat)
    (parts : List (Span text.size × Target)) :
    (allScopes inner text start parts b).Tells P b
      (Scan.allScopes embed text start parts b.cache b.count) := by
  induction parts generalizing b with
  | nil => exact fun _ => rfl
  | cons p parts ih => exact (partScopes_tells h start p.1 p.2).andThen fun _ => ih h

theorem emitMatch_tells (h : InnerTells P text.size b.depth inner embed) {origin : Nat}
    (m : Match text.size origin) :
    let found := Scan.allScopes embed text m.span.start (l.parts m) b.cache b.count
    (emitMatch inner l text m b).Tells P b { found with
      items :=
        if found.error?.isSome then []
        else [⟨text.slice m.span.start m.span.stop, Scope.forest found.items⟩] } := by
  intro found hends
  have hfound : allScopes inner text m.span.start (l.parts m) b = found.booked b := by
    refine allScopes_tells h m.span.start (l.parts m) (hends.imp_left fun hemit herror => hemit ?_)
    rw [emitMatch, herror]
    rfl
  rw [emitMatch, hfound]
  cases hf : found.error? with
  | none => simp [Run.booked, hf, Stretch.done]
  | some e => simp [Run.booked, hf, Stretch.failed]

theorem done_andThen_tells {items : List Chunk} {next : Ledger → Stretch Chunk} {r : Run Chunk}
    (h : (next b).Tells P b r) :
    ((Stretch.done items b).andThen next).Tells P b { r with items := items ++ r.items } := by
  intro hends
  rw [Stretch.andThen_of_none rfl] at hends ⊢
  have hnext : next b = r.booked b := h hends
  show Stretch.mk (items ++ (next b).items) (next b).error? (next b).ledger = _
  rw [hnext]
  rfl

theorem take_tells (h : InnerTells P text.size b.depth inner embed) (cursor : Nat) {origin : Nat}
    (m : Match text.size origin) : (take o inner l text cursor m b).Tells P b
      (Scan.take embed o l text cursor m b.cache b.count) :=
  countMatch_tells (done_andThen_tells (emitMatch_tells (b := b.counted) h m))

theorem nested_tells [Engine] {run : Lexer → Text → Ledger → Stretch Chunk} {n depth : Nat}
    (h : ∀ l text b, text.size ≤ n → b.depth = depth + 1 → b.depth ≤ o.depthLimit →
      (run l text b).Tells P b (scan c o (o.depthLimit - b.depth) l text b.cache b.count)) :
    InnerTells P n depth (nested c o run) (Scan.embedding c o (o.depthLimit - depth)) := by
  rintro name text b hsize rfl
  unfold nested
  split
  · next hle =>
    rw [Nat.sub_eq_zero_of_le hle]
    exact fun _ => rfl
  · next hlt =>
    have hlevels : o.depthLimit - b.depth = o.depthLimit - (b.depth + 1) + 1 := by omega
    rw [hlevels, Scan.embedding, Scan.embedded]
    cases c.find? name with
    | none => exact fun _ => rfl
    | some d =>
      simp only
      obtain ⟨e | l, cache⟩ := b.cache.fetch d
      · exact fun _ => rfl
      · intro hends
        have hrun := h l text { b with cache, depth := b.depth + 1 } hsize rfl (by simp only; omega)
          hends
        simp only at hrun ⊢
        rw [hrun]
        rfl

end Rounds

/-! ### The same match again and again -/

namespace Scan

variable {embed : Embed} {l : Lexer} {text : Text} {k : Cache} {count limit : Nat}

theorem take_error?_of_limit (ho : o.matchLimit = some limit) (h : limit ≤ count) (cursor : Nat)
    {origin : Nat} (m : Match text.size origin) :
    (take embed o l text cursor m k count).error? = some (.matchLimitExceeded limit) := by
  unfold take Run.counted
  rw [ho]
  simp only [h, if_true]
  rfl

theorem take_spent_pos (cursor : Nat) {origin : Nat} (m : Match text.size origin) :
    0 < (take embed o l text cursor m k count).spent := by
  rcases Run.counted_cases (α := Chunk) o k count with hs | ⟨_, _, _, hs⟩ <;>
    rw [take, hs] <;> exact Nat.succ_pos _

/-- Where the last chunk ended has no part in how a match ends. -/
theorem take_error?_congr (cursor cursor' : Nat) {origin : Nat} (m : Match text.size origin) :
    (take embed o l text cursor m k count).error? =
      (take embed o l text cursor' m k count).error? := by
  rw [take, take]
  rcases Run.counted_cases (α := Chunk) o k count with hs | ⟨_, _, _, hs⟩
  · rw [hs, hs]
    rfl
  · rw [hs, hs]

theorem takeAgain_of_limit (ho : o.matchLimit = some limit) (h : limit ≤ count) (more cursor : Nat)
    {origin : Nat} (m : Match text.size origin) :
    takeAgain embed o l text m more cursor k count = take embed o l text cursor m k count := by
  have herror : (take embed o l text cursor m k count).error? = _ :=
    take_error?_of_limit ho h cursor m
  cases more <;> exact Run.andThen_of_some herror

/-- Under a limit it does not matter how often a match would be taken beyond it. -/
theorem takeAgain_enough (ho : o.matchLimit = some limit) {origin : Nat}
    (m : Match text.size origin) (more more' cursor : Nat) (h : limit ≤ count + more)
    (h' : limit ≤ count + more') : takeAgain embed o l text m more cursor k count =
      takeAgain embed o l text m more' cursor k count := by
  induction more generalizing more' cursor k count with
  | zero =>
    have hle : limit ≤ count := h
    rw [takeAgain_of_limit ho hle, takeAgain_of_limit ho hle]
  | succ more ih =>
    cases more' with
    | zero =>
      have hle : limit ≤ count := h'
      rw [takeAgain_of_limit ho hle, takeAgain_of_limit ho hle]
    | succ more' =>
      rw [takeAgain, takeAgain]
      cases hr : (take embed o l text cursor m k count).error? with
      | some e => rw [Run.andThen_of_some hr, Run.andThen_of_some hr]
      | none =>
        have hpos : 0 < (take embed o l text cursor m k count).spent := take_spent_pos cursor m
        rw [Run.andThen_of_none hr, Run.andThen_of_none hr,
          ih more' m.span.stop (by omega) (by omega)]

/-- Under a limit, a course without end is followed match by match. -/
theorem follow_again (ho : o.matchLimit = some limit) {origin : Nat} (m : Match text.size origin)
    (cursor : Nat) : follow embed o l text (.again cursor m) k count =
      (take embed o l text cursor m k count).andThen fun k spent =>
        follow embed o l text (.again m.span.stop m) k (count + spent) := by
  simp only [follow, ho, Option.getD_some]
  by_cases hle : limit ≤ count
  · have herror : (take embed o l text cursor m k count).error? = _ :=
      take_error?_of_limit ho hle cursor m
    rw [takeAgain_of_limit ho hle, Run.andThen_of_some herror]
  · obtain ⟨more, hmore⟩ : ∃ more, limit - count = more + 1 := ⟨limit - count - 1, by omega⟩
    rw [hmore, takeAgain]
    cases hr : (take embed o l text cursor m k count).error? with
    | some e => rw [Run.andThen_of_some hr, Run.andThen_of_some hr]
    | none =>
      have hpos : 0 < (take embed o l text cursor m k count).spent := take_spent_pos cursor m
      rw [Run.andThen_of_none hr, Run.andThen_of_none hr, takeAgain_enough ho m more
        (limit - (count + (take embed o l text cursor m k count).spent)) m.span.stop (by omega)
        (by omega)]

theorem keepsLexers_embedding [Engine] (c : Catalogue) (o : Options) (levels : Nat) :
    KeepsLexers c (embedding c o levels) := by
  cases levels with
  | zero => exact keepsLexers_refused o
  | succ levels => exact keepsLexers_embedded (scan_agrees c o levels)

/-- Without a limit, a match that may be taken once may be taken for ever. -/
theorem follow_again_stalls [Engine] (c : Catalogue) (levels : Nat) (ho : o.matchLimit = none)
    {origin : Nat} {m : Match text.size origin} {cursor : Nat}
    (h : (take (embedding c o levels) o l text cursor m k count).error? = none)
    {k' : Cache} (hk : c.Agrees k k') (cursor' count' : Nat) :
    (follow (embedding c o levels) o l text (.again cursor' m) k' count').error? =
      some .stalled := by
  have he : EmbedsAlike c id o o (embedding c o levels) (embedding c o levels) := by
    cases levels with
    | zero => exact embedsAlike_refused (.id rfl)
    | succ levels =>
      exact embedsAlike_embedded (.id rfl) fun l text _ _ _ _ hk hs =>
        scan_alike (.id rfl) levels l text hk hs
  have hs : InStep o o count count' := ⟨rfl, .inl ho⟩
  have halike := take_alike (l := l) (.id rfl) he hk hs cursor m
  have hnone : (take (embedding c o levels) o l text cursor' m k' count').error? = none := by
    rw [take_error?_congr cursor' cursor, halike.error?, h]
    rfl
  simp only [follow, ho, Option.getD_none, Nat.zero_sub, takeAgain]
  rw [Run.andThen_of_none hnone]
  rfl

end Scan

namespace Language.Lexer

theorem courseFrom_again {l : Lexer} {text : Text} {origin : Nat} {m : Match text.size origin}
    (hm : l.regex.search text origin = some m) (hne : m.span.start ≠ m.span.stop)
    (hle : ¬origin < m.span.stop) (cursor : Nat) :
    l.courseFrom text cursor origin = .again cursor m := by
  rw [courseFrom, hm]
  simp only [hne, hle, if_false]

end Language.Lexer

/-! ### Enough rounds -/

/-- So many rounds are enough for a scan of `n` characters from `origin` on: those for the positions
and the matches that are left, and as many again for each level that may be opened as a scan of all
characters takes. -/
def Ledger.rounds (o : Options) (b : Ledger) (n origin : Nat) : Nat :=
  (o.depthLimit - b.depth) * (n + o.matchLimit.getD 0 + 2) + (n + 1 - origin) +
    (o.matchLimit.getD 0 - b.count) + 1

theorem Ledger.rounds_nested {b b' : Ledger} {n n' : Nat} (hdepth : b'.depth = b.depth + 1)
    (hle : b'.depth ≤ o.depthLimit) (hn : n' ≤ n) (origin : Nat) :
    b'.rounds o n' 0 < b.rounds o n origin := by
  obtain ⟨levels, hlevels⟩ : ∃ levels, o.depthLimit - b.depth = levels + 1 :=
    ⟨o.depthLimit - b'.depth, by omega⟩
  have hlevels' : o.depthLimit - b'.depth = levels := by omega
  have hmul : levels * (n' + o.matchLimit.getD 0 + 2) ≤ levels * (n + o.matchLimit.getD 0 + 2) :=
    Nat.mul_le_mul_left levels (by omega)
  simp only [rounds, hlevels, hlevels', Nat.add_mul, Nat.one_mul]
  omega

theorem Ledger.rounds_onward {b b' : Ledger} {n origin origin' : Nat} (hdepth : b'.depth = b.depth)
    (hcount : b.count ≤ b'.count) (hle : origin ≤ n) (hlt : origin < origin') :
    b'.rounds o n origin' < b.rounds o n origin := by
  simp only [rounds, hdepth]
  omega

theorem Ledger.rounds_again {b b' : Ledger} {n limit : Nat} (ho : o.matchLimit = some limit)
    (hdepth : b'.depth = b.depth) (hlt : b.count < limit) (hcount : b.count < b'.count)
    (origin : Nat) : b'.rounds o n origin < b.rounds o n origin := by
  simp only [rounds, hdepth, ho, Option.getD_some]
  omega

theorem Run.counted_done_andThen (k : Cache) (count : Nat) (next : Cache → Nat → Run Chunk) :
    (Run.counted o k count (.done [] k)).andThen next = Run.counted o k count (next k 1) := by
  rcases counted_cases (α := Chunk) o k count with hs | ⟨_, _, _, hs⟩
  · rw [hs, hs, andThen_of_none rfl]
    simp only [spend, done, List.nil_append, Nat.add_comm]
  · rw [hs, hs]
    rfl

namespace Rounds

variable [Engine]

/-- A match that ends where its search began is taken round after round. The rounds can only be
enough if there is a limit that is not met before. -/
theorem again_tells {levels cursor origin : Nat} {m : Match text.size origin} {s : Stretch Chunk}
    {next : Ledger → Stretch Chunk}
    (hs : s.Tells P b
      (Scan.take (Scan.embedding c o levels) o l text cursor m b.cache b.count))
    (hn : ∀ b' : Ledger, b'.depth = b.depth → b.count < b'.count →
      (next b').Tells (P ∧ ∃ limit, o.matchLimit = some limit ∧ b.count < limit) b'
        (Scan.follow (Scan.embedding c o levels) o l text (.again m.span.stop m) b'.cache
          b'.count)) :
    (s.andThen next).Tells P b (Scan.follow (Scan.embedding c o levels) o l text
      (.again cursor m) b.cache b.count) := by
  let taken := Scan.take (Scan.embedding c o levels) o l text cursor m b.cache b.count
  have hmore : b.count < b.count + taken.spent :=
    Nat.lt_add_of_pos_right (Scan.take_spent_pos cursor m)
  have hnext := hn (taken.booked b).ledger rfl hmore
  cases ho : o.matchLimit with
  | some limit =>
    rw [Scan.follow_again ho]
    refine hs.andThen fun hok => hnext.mono fun hP => ⟨hP, limit, ho, ?_⟩
    refine Nat.lt_of_not_le fun hle => ?_
    rw [Scan.take_error?_of_limit ho hle] at hok
    cases hok
  | none =>
    simp only [Scan.follow, ho, Option.getD_none, Nat.zero_sub, Scan.takeAgain]
    refine hs.andThen fun hok hends => ?_
    rcases hends with hends | ⟨-, hends⟩
    · have hk : c.Agrees b.cache taken.cache :=
        Scan.take_agrees (Scan.keepsLexers_embedding c o levels) cursor m
      rw [hnext (.inl hends)] at hends
      exact absurd (Scan.follow_again_stalls c levels ho hok hk m.span.stop _) hends
    · exact absurd rfl hends

/-- A scan in rounds leaves what the scan does that follows the course. -/
theorem run_tells (rounds : Nat) (l : Lexer) (text : Text) (cursor origin : Nat) (b : Ledger) :
    (run c o rounds l text cursor origin b).Tells (b.rounds o text.size origin ≤ rounds) b
      (Scan.follow (Scan.embedding c o (o.depthLimit - b.depth)) o l text
        (l.courseFrom text cursor origin) b.cache b.count) := by
  induction rounds generalizing l text cursor origin b with
  | zero =>
    rintro (hends | ⟨henough, -⟩)
    · exact absurd rfl hends
    · exact absurd henough (Nat.not_succ_le_zero _)
  | succ rounds ih =>
    -- where fewer rounds are needed than before, one less is enough
    have hless : ∀ (l : Lexer) (text' : Text) (cursor' origin' : Nat) (b' : Ledger),
        b'.rounds o text'.size origin' < b.rounds o text.size origin →
        (run c o rounds l text' cursor' origin' b').Tells
          (b.rounds o text.size origin ≤ rounds + 1) b'
          (Scan.follow (Scan.embedding c o (o.depthLimit - b'.depth)) o l text'
            (l.courseFrom text' cursor' origin') b'.cache b'.count) :=
      fun l text' cursor' origin' b' hlt => (ih l text' cursor' origin' b').mono (by omega)
    cases hm : l.regex.search text origin with
    | none =>
      rw [run, round, Lexer.courseFrom, hm]
      exact fun _ => rfl
    | some m =>
      have hstart := m.origin_le_stop
      have hstop := m.span.stop_le
      rw [run, round, hm]
      by_cases he : m.span.start = m.span.stop
      · rw [Lexer.courseFrom, hm]
        simp only [he, if_true]
        split
        · rw [Scan.follow, Run.counted_done_andThen]
          exact countMatch_tells (hless l text cursor _ b.counted
            (Ledger.rounds_onward rfl (Nat.le_succ _) (by omega) (by omega)))
        · rw [Scan.follow, Run.counted_done_andThen]
          exact countMatch_tells fun _ => rfl
      · have hinner : InnerTells (b.rounds o text.size origin ≤ rounds + 1) text.size b.depth
            (nested c o fun l text b => run c o rounds l text 0 0 b)
            (Scan.embedding c o (o.depthLimit - b.depth)) := by
          refine nested_tells fun l' text' b' hsize hdepth hle => ?_
          rw [scan_eq_follow]
          exact hless l' text' 0 0 b' (Ledger.rounds_nested hdepth hle hsize origin)
        have htake := take_tells (o := o) (b := b) (l := l) hinner cursor m
        simp only [he, if_false]
        by_cases hlt : origin < m.span.stop
        · rw [Lexer.courseFrom, hm]
          simp only [he, hlt, if_true, if_false]
          exact htake.andThen fun _ => hless l text _ _ _
            (Ledger.rounds_onward rfl (Nat.le_add_right _ _) (by omega) hlt)
        · have hsame : m.span.stop = origin := by omega
          have hagain : ∀ cursor', l.courseFrom text cursor' m.span.stop = .again cursor' m := by
            rw [hsame]
            exact Lexer.courseFrom_again hm he hlt
          rw [Lexer.courseFrom_again hm he hlt]
          refine again_tells htake fun b' hdepth hcount => ?_
          have hnext := ih l text m.span.stop m.span.stop b'
          rw [hagain, hdepth] at hnext
          refine hnext.mono fun hmore => ?_
          obtain ⟨henough, limit, ho, hlt⟩ := hmore
          have := Ledger.rounds_again (n := text.size) ho hdepth hlt hcount origin
          rw [hsame]
          omega

theorem run_tells_scan (rounds : Nat) (l : Lexer) (text : Text) (b : Ledger) :
    (run c o rounds l text 0 0 b).Tells (b.rounds o text.size 0 ≤ rounds) b
      (scan c o (o.depthLimit - b.depth) l text b.cache b.count) := by
  rw [scan_eq_follow]
  exact run_tells rounds l text 0 0 b

/-- A scan ends if some number of rounds is enough for it, and only then. -/
theorem ends_iff (l : Lexer) (text : Text) (b : Ledger) :
    (scan c o (o.depthLimit - b.depth) l text b.cache b.count).Ends ↔
      ∃ rounds, (run c o rounds l text 0 0 b).Ends := by
  constructor
  · intro hends
    refine ⟨b.rounds o text.size 0, ?_⟩
    rw [run_tells_scan _ l text b (.inr ⟨Nat.le_refl _, hends⟩)]
    exact hends
  · rintro ⟨rounds, hends⟩
    rw [run_tells_scan rounds l text b (.inl hends)] at hends
    exact hends

end Rounds

end ScopeLexer
