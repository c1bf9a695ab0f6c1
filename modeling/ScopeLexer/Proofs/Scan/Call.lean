import ScopeLexer.Scan.Nesting

/-! Calls. A scan runs a part of a match in another language by a call: a name, a text, and the
cache and the number of matches as they are by then. Calls are all that ties a scan to the languages
inside it. So where two ways to run languages agree on the calls of a scan, the scan is the same
with both; and where the second one fails on some of them, the scan that succeeded with the first
fails with it, and has emitted a part of what it emitted before. -/

namespace ScopeLexer

open ScopeLexer.Language Regex

/-- What comes after a run that was not cut short. -/
def Run.onward {α β : Type} (r : Run α) (next : Cache → (spent : Nat) → List β) : List β :=
  match r.error? with
  | some _ => []
  | none => next r.cache r.spent

theorem Run.onward_of_some {α β : Type} {r : Run α} {next : Cache → Nat → List β} {e : Error}
    (h : r.error? = some e) : r.onward next = [] := by
  rw [onward, h]

theorem Run.onward_of_none {α β : Type} {r : Run α} {next : Cache → Nat → List β}
    (h : r.error? = none) : r.onward next = next r.cache r.spent := by
  rw [onward, h]

namespace Scan

structure Call where
  name : String
  text : Text
  cache : Cache
  count : Nat

def Call.run (q : Call) (embed : Embed) : Run Chunk := embed q.name q.text q.cache q.count

/-! ### The calls of a scan, in order -/

def partCalls {text : Text} (part : Span text.size) (target : Target) (k : Cache) (count : Nat) :
    List Call :=
  match target with
  | .scope _ => []
  | .language name => [⟨name, text.extract part.start part.stop, k, count⟩]

def allCalls (embed : Embed) (text : Text) (start : Nat) :
    List (Span text.size × Target) → Cache → (count : Nat) → List Call
  | [], _, _ => []
  | (part, target) :: parts, k, count =>
    partCalls part target k count ++
      (partScopes embed text start part target k count).onward fun k spent =>
        allCalls embed text start parts k (count + spent)

/-- A match that may not be counted makes no calls. -/
def takeCalls (embed : Embed) (o : Options) (l : Lexer) (text : Text) {origin : Nat}
    (m : Match text.size origin) (k : Cache) (count : Nat) : List Call :=
  (Run.counted o k count (.done (α := Chunk) [] k)).onward fun k _ =>
    allCalls embed text m.span.start (l.parts m) k (count + 1)

def takeAgainCalls (embed : Embed) (o : Options) (l : Lexer) (text : Text) {origin : Nat}
    (m : Match text.size origin) : (more cursor : Nat) → Cache → (count : Nat) → List Call
  | 0, _, k, count => takeCalls embed o l text m k count
  | more + 1, cursor, k, count =>
    takeCalls embed o l text m k count ++
      (take embed o l text cursor m k count).onward fun k spent =>
        takeAgainCalls embed o l text m more m.span.stop k (count + spent)

def calls (embed : Embed) (o : Options) (l : Lexer) (text : Text) :
    Course text.size → Cache → (count : Nat) → List Call
  | .finish _, _, _ => []
  | .pass _ rest, k, count =>
    (Run.counted o k count (.done (α := Chunk) [] k)).onward fun k spent =>
      calls embed o l text rest k (count + spent)
  | .take cursor m rest, k, count =>
    takeCalls embed o l text m k count ++
      (take embed o l text cursor m k count).onward fun k spent =>
        calls embed o l text rest k (count + spent)
  | .again cursor m, k, count =>
    takeAgainCalls embed o l text m ((o.matchLimit.getD 0) - count) cursor k count

/-- How a scan with so many levels left runs other languages. -/
def embedding [Engine] (c : Catalogue) (o : Options) : (levels : Nat) → Embed
  | 0 => refused o
  | levels + 1 => embedded c (scan c o levels)

end Scan

theorem scan_eq_follow [Engine] (c : Catalogue) (o : Options) (levels : Nat) (l : Lexer)
    (text : Text) (k : Cache) (count : Nat) :
    scan c o levels l text k count =
      Scan.follow (Scan.embedding c o levels) o l text (l.course text) k count := by
  cases levels <;> rfl

/-! ### Runs cut short -/

/-- The second run is the first one, or ends with an error if `F` holds. -/
structure Run.Breaks {α : Type} (F : Prop) (e : Error) (r r' : Run α) : Prop where
  same : ¬F → r' = r
  error? : F → r'.error? = some e

/-- The second run ends earlier than the first one if `F` holds. -/
structure Run.Cut {α : Type} (F : Prop) (e : Error) (r r' : Run α) : Prop extends
    Run.Breaks F e r r' where
  isPrefix : F → r'.items <+: r.items

namespace Run

variable {α β : Type} {F G : Prop} {e : Error} {r r' : Run α} {next next' : Cache → Nat → Run α}

theorem Breaks.congr (h : Breaks F e r r') (hFG : F ↔ G) : Breaks G e r r' :=
  ⟨fun hG => h.same (mt hFG.1 hG), fun hG => h.error? (hFG.2 hG)⟩

theorem Cut.congr (h : Cut F e r r') (hFG : F ↔ G) : Cut G e r r' :=
  ⟨h.toBreaks.congr hFG, fun hG => h.isPrefix (hFG.2 hG)⟩

theorem Breaks.andThen (h : Breaks F e r r') (hr : r.error? = none)
    (hn : Breaks G e (next r.cache r.spent) (next' r.cache r.spent)) :
    Breaks (F ∨ G) e (r.andThen next) (r'.andThen next') := by
  by_cases hF : F
  · have herror := h.error? hF
    refine ⟨fun hne => absurd (.inl hF) hne, fun _ => ?_⟩
    rw [andThen_of_some herror, herror]
  · obtain rfl := h.same hF
    rw [andThen_of_none hr, andThen_of_none hr]
    refine ⟨fun hne => ?_, fun hG => hn.error? (hG.resolve_left hF)⟩
    rw [hn.same fun hG => hne (.inr hG)]

theorem Cut.andThen (h : Cut F e r r') (hr : r.error? = none)
    (hn : Cut G e (next r.cache r.spent) (next' r.cache r.spent)) :
    Cut (F ∨ G) e (r.andThen next) (r'.andThen next') := by
  refine ⟨h.toBreaks.andThen hr hn.toBreaks, fun hFG => ?_⟩
  rw [andThen_of_none hr]
  by_cases hF : F
  · rw [andThen_of_some (h.error? hF)]
    exact (h.isPrefix hF).trans (List.prefix_append _ _)
  · obtain rfl := h.same hF
    rw [andThen_of_none hr]
    exact (List.prefix_append_right_inj _).2 (hn.isPrefix (hFG.resolve_left hF))

end Run

/-! ### Calls that fail -/

namespace Scan

variable {embed embed' : Embed} {o o' : Options} {l : Lexer} {text : Text} {k : Cache} {count : Nat}
  {G : Call → Prop} {e : Error}

/-- Of the calls that succeed in the first way, those for which `G` holds fail in the second way,
and the others run as in the first. -/
def Fails (G : Call → Prop) (e : Error) (embed embed' : Embed) (qs : List Call) : Prop :=
  ∀ q ∈ qs, (q.run embed).error? = none →
    (¬G q → q.run embed' = q.run embed) ∧ (G q → (q.run embed').error? = some e)

theorem exists_mem_append {qs qs' : List Call} :
    (∃ q ∈ qs ++ qs', G q) ↔ (∃ q ∈ qs, G q) ∨ ∃ q ∈ qs', G q := by
  simp only [List.mem_append, or_and_right, exists_or]

theorem Fails.append {qs qs' : List Call} (h : Fails G e embed embed' (qs ++ qs')) :
    Fails G e embed embed' qs ∧ Fails G e embed embed' qs' :=
  List.forall_mem_append.1 h

theorem partScopes_breaks {start : Nat} {part : Span text.size} {target : Target}
    (hok : (partScopes embed text start part target k count).error? = none)
    (h : Fails G e embed embed' (partCalls part target k count)) :
    Run.Breaks (∃ q ∈ partCalls part target k count, G q) e
      (partScopes embed text start part target k count)
      (partScopes embed' text start part target k count) := by
  cases target with
  | scope name => exact ⟨fun _ => rfl, fun ⟨_, hq, _⟩ => nomatch hq⟩
  | language name =>
    obtain ⟨hsame, herror⟩ := h _ List.mem_cons_self hok
    have hcalls : (∃ q ∈ partCalls part (.language name) k count, G q) ↔
        G ⟨name, text.extract part.start part.stop, k, count⟩ := by simp [partCalls]
    refine Run.Breaks.congr ⟨fun hG => ?_, fun hG => ?_⟩ hcalls.symm
    · exact congrArg (Run.mapItems fun ds =>
        (Chunk.scopesFrom 0 ds).map (Scope.shift (text.width start part.start))) (hsame hG)
    · exact herror hG

theorem allScopes_breaks {start : Nat} {parts : List (Span text.size × Target)}
    (hok : (allScopes embed text start parts k count).error? = none)
    (h : Fails G e embed embed' (allCalls embed text start parts k count)) :
    Run.Breaks (∃ q ∈ allCalls embed text start parts k count, G q) e
      (allScopes embed text start parts k count) (allScopes embed' text start parts k count) := by
  induction parts generalizing k count with
  | nil => exact ⟨fun _ => rfl, fun ⟨_, hq, _⟩ => nomatch hq⟩
  | cons p parts ih =>
    obtain ⟨hfirst, hrest, -⟩ := Run.andThen_error? hok
    rw [allCalls, Run.onward_of_none hfirst] at h ⊢
    obtain ⟨hp, hps⟩ := h.append
    have hpart := partScopes_breaks hfirst hp
    exact Run.Breaks.congr (.andThen hpart hfirst (ih hrest hps)) exists_mem_append.symm

theorem counted_congr {α : Type} (ho : o'.matchLimit = o.matchLimit) (r : Run α) :
    Run.counted o' k count r = Run.counted o k count r := by
  rw [Run.counted, Run.counted, ho]

theorem take_cut (ho : o'.matchLimit = o.matchLimit) {cursor origin : Nat}
    {m : Match text.size origin} (hok : (take embed o l text cursor m k count).error? = none)
    (h : Fails G e embed embed' (takeCalls embed o l text m k count)) :
    Run.Cut (∃ q ∈ takeCalls embed o l text m k count, G q) e
      (take embed o l text cursor m k count) (take embed' o' l text cursor m k count) := by
  rcases Run.counted_cases (α := Chunk) o k count with hs | ⟨_, _, _, hs⟩
  · simp only [take, takeCalls, counted_congr ho, hs] at hok h ⊢
    have hok : (allScopes embed text m.span.start (l.parts m) k (count + 1)).error? = none := hok
    have hfound := allScopes_breaks hok h
    refine ⟨⟨fun hG => ?_, fun hG => hfound.error? hG⟩, fun hG => ?_⟩
    · rw [hfound.same hG]
    · simp [Run.spend, hok, hfound.error? hG]
  · rw [take, hs] at hok
    cases hok

/-- A match that is taken again and again is not taken in the end. -/
theorem takeAgain_error? {origin : Nat} (m : Match text.size origin) (more cursor : Nat) :
    (takeAgain embed o l text m more cursor k count).error? ≠ none := by
  induction more generalizing cursor k count with
  | zero =>
    intro hok
    obtain ⟨_, hrest, -⟩ := Run.andThen_error? hok
    cases hrest
  | succ more ih =>
    intro hok
    obtain ⟨_, hrest, -⟩ := Run.andThen_error? hok
    exact ih _ hrest

theorem follow_cut (ho : o'.matchLimit = o.matchLimit) {course : Course text.size}
    (hok : (follow embed o l text course k count).error? = none)
    (h : Fails G e embed embed' (calls embed o l text course k count)) :
    Run.Cut (∃ q ∈ calls embed o l text course k count, G q) e
      (follow embed o l text course k count) (follow embed' o' l text course k count) := by
  induction course generalizing k count with
  | finish cursor =>
    exact ⟨⟨fun _ => rfl, fun ⟨_, hq, _⟩ => nomatch hq⟩, fun ⟨_, hq, _⟩ => nomatch hq⟩
  | pass m rest ih =>
    obtain ⟨hfirst, hrest, -⟩ := Run.andThen_error? hok
    rw [calls, Run.onward_of_none hfirst] at h ⊢
    have hpass : Run.Cut False e (Run.counted o k count (.done (α := Chunk) [] k))
        (Run.counted o' k count (.done (α := Chunk) [] k)) :=
      ⟨⟨fun _ => counted_congr ho _, False.elim⟩, False.elim⟩
    refine Run.Cut.congr (.andThen hpass hfirst ?_) (iff_of_eq (false_or _))
    exact ih hrest h
  | take cursor m rest ih =>
    obtain ⟨hfirst, hrest, -⟩ := Run.andThen_error? hok
    rw [calls, Run.onward_of_none hfirst] at h ⊢
    obtain ⟨htake, hcalls⟩ := h.append
    refine Run.Cut.congr (.andThen (take_cut ho hfirst htake) hfirst ?_) exists_mem_append.symm
    exact ih hrest hcalls
  | again cursor m => exact absurd hok (takeAgain_error? m _ cursor)

end Scan

end ScopeLexer
