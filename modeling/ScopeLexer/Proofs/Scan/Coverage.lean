import Mathlib.Data.List.Chain
import ScopeLexer.Proofs.Language.Checked
import ScopeLexer.Proofs.Regex.Forward
import ScopeLexer.Proofs.Text.Slice
import ScopeLexer.Scan.Nesting

/-! What a scan covers. The course of a lexer cuts its text into gaps and matches, one behind the
other from the start of the text to its end. A scan emits the texts of these cuts in their order; an
error leaves out the last ones. Nothing is asked of matches but that none starts before its search:
they may be empty and lie anywhere behind it, and the languages inside them may fail. -/

namespace ScopeLexer

open ScopeLexer.Language Regex

/-- Every search in the text finds its match at the place where it starts or behind it. -/
def Language.Lexer.GoesAhead (l : Lexer) (text : Text) : Prop :=
  ∀ origin m, l.regex.search text origin = some m → origin ≤ m.span.start

/-- Checks that the joined pattern of a definition neither looks behind nor keeps a start. -/
def Language.Definition.isPlain (d : Definition) : Bool :=
  (Regex.compile true (Lexer.joined d.rules)).toOption.all (·.isPlain)

/-- A definition without look-behinds and kept starts has a lexer that goes ahead. -/
theorem Language.Lexer.goesAhead_of_plain {d : Definition} {l : Lexer}
    (h : Lexer.compile d = .ok l) (hp : d.isPlain) (text : Text) : l.GoesAhead text := by
  obtain ⟨r, hr, hexpression⟩ := engine_compile_eq_ok.1 (compile_cases h).2.2
  rw [Definition.isPlain, hr] at hp
  intro origin m hm
  rw [← hexpression] at hm
  exact (plain_of_compile hr hp).origin_le_start hm

/-! ### Cuts -/

/-- What a stretch of text is for a scan. The rest of the text behind an empty match is only looked
at. -/
inductive CutKind
  | gap
  | found
  | rest
  deriving DecidableEq, Repr

/-- A stretch of text between two characters. -/
structure Cut where
  kind : CutKind
  start : Nat
  stop : Nat
  deriving DecidableEq, Repr

namespace Cut

def text (source : Text) (c : Cut) : String := source.slice c.start c.stop

/-- The gap between two positions, if there is any. -/
def gaps (start stop : Nat) : List Cut := if start < stop then [⟨.gap, start, stop⟩] else []

/-- A cut lies in the text, and the bytes at which it begins and ends are those of characters. -/
structure Fits (source : String) (c : Cut) : Prop where
  start_le_stop : c.start ≤ c.stop
  stop_le : c.stop ≤ (Text.ofString source).size
  bytes_le : (Text.ofString source).offset c.start ≤ (Text.ofString source).offset c.stop
  start_valid : (String.Pos.Raw.mk ((Text.ofString source).offset c.start)).IsValid source
  stop_valid : (String.Pos.Raw.mk ((Text.ofString source).offset c.stop)).IsValid source

theorem Fits.of_le {source : String} {c : Cut} (hc : c.start ≤ c.stop)
    (hs : c.stop ≤ (Text.ofString source).size) : c.Fits source :=
  ⟨hc, hs, Text.offset_mono _ hc, Text.offset_isValid _ _, Text.offset_isValid _ _⟩

/-- Cuts with some text in each, one behind the other from `start` to `stop`. -/
def Tile (stop : Nat) : (start : Nat) → List Cut → Prop
  | start, [] => start = stop
  | start, c :: cs => c.start = start ∧ c.start < c.stop ∧ Tile stop c.stop cs

theorem Tile.le {stop start : Nat} {cs : List Cut} (h : Tile stop start cs) : start ≤ stop := by
  induction cs generalizing start with
  | nil => exact Nat.le_of_eq h
  | cons c cs ih =>
    obtain ⟨hc, hlt, ht⟩ := h
    have := ih ht
    omega

theorem Tile.append {stop mid start : Nat} {cs ds : List Cut} (hc : Tile mid start cs)
    (hd : Tile stop mid ds) : Tile stop start (cs ++ ds) := by
  induction cs generalizing start with
  | nil =>
    obtain rfl : start = mid := hc
    exact hd
  | cons c cs ih => exact ⟨hc.1, hc.2.1, ih hc.2.2⟩

theorem tile_gaps {start stop : Nat} (h : start ≤ stop) : Tile stop start (gaps start stop) := by
  unfold gaps
  split
  · next hlt => exact ⟨rfl, hlt, rfl⟩
  · show start = stop
    omega

theorem Tile.join {text : Text} {start : Nat} {cs : List Cut} (h : Tile text.size start cs) :
    String.join (cs.map (·.text text)) = text.slice start text.size := by
  induction cs generalizing start with
  | nil =>
    obtain rfl : start = text.size := h
    simp [Text.slice_self]
  | cons c cs ih =>
    obtain ⟨rfl, hlt, ht⟩ := h
    rw [List.map_cons, String.join_cons, ih ht]
    exact Text.slice_append text (Nat.le_of_lt hlt) ht.le

theorem Tile.text_ne_empty {text : Text} {start : Nat} {cs : List Cut}
    (h : Tile text.size start cs) : ∀ c ∈ cs, c.text text ≠ "" := by
  induction cs generalizing start with
  | nil => simp
  | cons c cs ih =>
    obtain ⟨_, hlt, ht⟩ := h
    exact List.forall_mem_cons.2 ⟨Text.slice_ne_empty hlt ht.le, ih ht⟩

end Cut

/-! ### Courses -/

namespace Course

variable {n : Nat}

/-- Everything that a scan cuts out of its text on a course, in order. -/
def cuts : Course n → List Cut
  | finish cursor => Cut.gaps cursor n
  | pass m rest => ⟨.rest, m.span.stop, n⟩ :: rest.cuts
  | take cursor m rest =>
    Cut.gaps cursor m.span.start ++ ⟨.found, m.span.start, m.span.stop⟩ :: rest.cuts
  | again cursor m => Cut.gaps cursor m.span.start ++ [⟨.found, m.span.start, m.span.stop⟩]

/-- The cuts that a scan emits. -/
def emitted (c : Course n) : List Cut := c.cuts.filter (·.kind ≠ .rest)

/-- The course from `start` on takes its matches in their order and comes to an end. -/
def InOrder : (start : Nat) → Course n → Prop
  | start, finish cursor => cursor = start ∧ start ≤ n
  | start, pass _ rest => rest.InOrder start
  | start, take cursor m rest =>
    cursor = start ∧ start ≤ m.span.start ∧ m.span.start < m.span.stop ∧ rest.InOrder m.span.stop
  | _, again _ _ => False

@[simp] theorem filter_gaps (a b : Nat) :
    (Cut.gaps a b).filter (·.kind ≠ .rest) = Cut.gaps a b := by
  unfold Cut.gaps
  split <;> rfl

@[simp] theorem emitted_finish (cursor : Nat) :
    (finish cursor : Course n).emitted = Cut.gaps cursor n := filter_gaps _ _

@[simp] theorem emitted_pass {origin : Nat} (m : Match n origin) (rest : Course n) :
    (pass m rest).emitted = rest.emitted := rfl

@[simp] theorem emitted_take (cursor : Nat) {origin : Nat} (m : Match n origin)
    (rest : Course n) : (take cursor m rest).emitted =
      (Cut.gaps cursor m.span.start ++ [⟨.found, m.span.start, m.span.stop⟩]) ++ rest.emitted := by
  have hgaps : ∀ d ∈ Cut.gaps cursor m.span.start, d.kind ≠ .rest := by
    intro d hd
    unfold Cut.gaps at hd
    split at hd <;> simp_all
  simpa [emitted, cuts] using hgaps

theorem InOrder.tile {start : Nat} {c : Course n} (h : c.InOrder start) :
    Cut.Tile n start c.emitted := by
  induction c generalizing start with
  | finish cursor =>
    obtain ⟨rfl, hn⟩ := h
    rw [emitted_finish]
    exact Cut.tile_gaps hn
  | pass m rest ih => exact ih h
  | take cursor m rest ih =>
    obtain ⟨rfl, hs, hlt, hr⟩ := h
    have hfound : Cut.Tile m.span.stop m.span.start [⟨.found, m.span.start, m.span.stop⟩] :=
      ⟨rfl, hlt, rfl⟩
    rw [emitted_take]
    exact ((Cut.tile_gaps hs).append hfound).append (ih hr)
  | again cursor m => exact h.elim

/-- No gap follows another one, since a match stands between them. -/
theorem gaps_apart (c : Course n) :
    c.emitted.IsChain fun j k => ¬(j.kind = .gap ∧ k.kind = .gap) := by
  induction c with
  | finish cursor =>
    rw [emitted_finish, Cut.gaps]
    split <;> simp
  | pass m rest ih => exact ih
  | take cursor m rest ih =>
    rw [emitted_take, Cut.gaps]
    have hfound : (⟨.found, m.span.start, m.span.stop⟩ :: rest.emitted).IsChain
        fun j k => ¬(j.kind = .gap ∧ k.kind = .gap) :=
      List.isChain_cons.2 ⟨fun _ _ h => by simp at h, ih⟩
    split
    · exact List.IsChain.cons_cons (by simp) hfound
    · exact hfound
  | again cursor m =>
    rw [emitted, cuts, Cut.gaps]
    split <;> simp

theorem InOrder.fits {source : String} {start : Nat} {c : Course (Text.ofString source).size}
    (h : c.InOrder start) : ∀ k ∈ c.cuts, k.Fits source := by
  have gap_fits : ∀ {a b : Nat}, b ≤ (Text.ofString source).size →
      ∀ k ∈ Cut.gaps a b, k.Fits source := by
    intro a b hb k hk
    unfold Cut.gaps at hk
    split at hk
    · next hlt =>
      obtain rfl := List.mem_singleton.1 hk
      exact .of_le (Nat.le_of_lt hlt) hb
    · simp at hk
  induction c generalizing start with
  | finish cursor => exact gap_fits (Nat.le_refl _)
  | pass m rest ih =>
    exact List.forall_mem_cons.2 ⟨.of_le m.span.stop_le (Nat.le_refl _), ih h⟩
  | take cursor m rest ih =>
    intro k hk
    rcases List.mem_append.1 hk with hk | hk
    · exact gap_fits (Nat.le_trans m.span.start_le_stop m.span.stop_le) k hk
    · rcases List.mem_cons.1 hk with rfl | hk
      · exact .of_le m.span.start_le_stop m.span.stop_le
      · exact ih h.2.2.2 k hk
  | again cursor m => exact h.elim

end Course

/-- Where no match starts before its search, a course keeps the order of the text: the cursor never
lies behind the place of the search, and a match that takes text ends behind that place. -/
theorem Language.Lexer.courseFrom_inOrder {l : Lexer} {text : Text} (h : l.GoesAhead text)
    {cursor origin : Nat} (hc : cursor ≤ origin) (hn : cursor ≤ text.size) :
    (l.courseFrom text cursor origin).InOrder cursor := by
  fun_induction Lexer.courseFrom l text cursor origin with
  | case1 cursor origin hm => exact ⟨rfl, hn⟩
  | case2 cursor origin m hm he hlt ih => exact ih (by have := m.origin_le_stop; omega) hn
  | case3 cursor origin m hm he hlt => exact ⟨rfl, hn⟩
  | case4 cursor origin m hm hne hlt ih =>
    have hs := h origin m hm
    have hle := m.span.start_le_stop
    exact ⟨rfl, by omega, by omega, ih (Nat.le_refl _) m.span.stop_le⟩
  | case5 cursor origin m hm hne hlt =>
    have hs := h origin m hm
    have hle := m.span.start_le_stop
    omega

theorem Language.Lexer.course_inOrder {l : Lexer} {text : Text} (h : l.GoesAhead text) :
    (l.course text).InOrder 0 :=
  courseFrom_inOrder h (Nat.le_refl _) (Nat.zero_le _)

/-! ### Runs -/

namespace Run

/-- A run emits chunks with these texts; an error may leave out the last ones. -/
structure Emits (r : Run Chunk) (texts : List String) : Prop where
  isPrefix : r.items.map (·.text) <+: texts
  all : r.error? = none → r.items.map (·.text) = texts

variable {texts more : List String} {cache : Cache} {count : Nat}

theorem emits_done {items : List Chunk} (h : items.map (·.text) = texts) :
    (done items cache).Emits texts := ⟨h ▸ List.prefix_rfl, fun _ => h⟩

theorem Emits.andThen {r : Run Chunk} {next : Cache → Nat → Run Chunk} (h : r.Emits texts)
    (hn : ∀ cache spent, (next cache spent).Emits more) :
    (r.andThen next).Emits (texts ++ more) := by
  unfold Run.andThen
  cases he : r.error? with
  | some e => exact ⟨h.isPrefix.trans (List.prefix_append _ _), fun hnone => by simp [he] at hnone⟩
  | none =>
    obtain ⟨hp, ha⟩ := hn r.cache r.spent
    simp only
    refine ⟨?_, fun hs => ?_⟩
    · rw [List.map_append, h.all he]
      exact (List.prefix_append_right_inj texts).2 hp
    · rw [List.map_append, h.all he, ha hs]

theorem Emits.counted {o : Options} {next : Run Chunk} (h : next.Emits texts) :
    (Run.counted o cache count next).Emits texts := by
  unfold Run.counted
  split
  · split
    · exact ⟨List.nil_prefix, fun hs => nomatch hs⟩
    · exact ⟨h.isPrefix, h.all⟩
  · exact ⟨h.isPrefix, h.all⟩

end Run

namespace Scan

variable {embed : Embed} {o : Options} {l : Lexer} {text : Text} {cache : Cache} {count : Nat}

theorem map_gap (a b : Nat) : (gap text a b).map (·.text) = (Cut.gaps a b).map (·.text text) := by
  unfold gap Cut.gaps
  split <;> rfl

theorem take_emits (cursor : Nat) {origin : Nat} (m : Match text.size origin) :
    (take embed o l text cursor m cache count).Emits
      ((Cut.gaps cursor m.span.start ++
        [(⟨.found, m.span.start, m.span.stop⟩ : Cut)]).map (·.text text)) := by
  apply Run.Emits.counted
  generalize allScopes embed text m.span.start (l.parts m) cache (count + 1) = found
  rw [List.map_append, ← map_gap]
  cases he : found.error? with
  | some e => exact ⟨by simp, fun hs => by simp at hs⟩
  | none => exact ⟨by simp [Cut.text], fun _ => by simp [Cut.text]⟩

/-- A scan that follows a course emits the texts of its cuts. -/
theorem follow_emits {start : Nat} {c : Course text.size} (h : c.InOrder start) :
    (follow embed o l text c cache count).Emits (c.emitted.map (·.text text)) := by
  induction c generalizing start cache count with
  | finish cursor =>
    rw [Course.emitted_finish]
    exact Run.emits_done (map_gap _ _)
  | pass m rest ih =>
    have hn : (Run.done [] cache : Run Chunk).Emits [] := Run.emits_done rfl
    exact (hn.counted).andThen fun _ _ => ih h
  | take cursor m rest ih =>
    rw [Course.emitted_take, List.map_append]
    exact (take_emits cursor m).andThen fun _ _ => ih h.2.2.2
  | again cursor m => exact h.elim

end Scan

theorem scan_emits [Engine] (c : Catalogue) (o : Options) (levels : Nat) {l : Lexer} {text : Text}
    (cache : Cache) (count : Nat) (h : l.GoesAhead text) :
    (scan c o levels l text cache count).Emits
      ((l.course text).emitted.map (·.text text)) := by
  cases levels with
  | zero => exact Scan.follow_emits (Lexer.course_inOrder h)
  | succ levels => exact Scan.follow_emits (Lexer.course_inOrder h)

/-- What a scan of `source` along a course has emitted. -/
structure Coverage (source : String) (c : Course (Text.ofString source).size) (r : Run Chunk) :
    Prop where
  /-- Every cut that the scan makes lies in the text between characters. -/
  fits : ∀ k ∈ c.cuts, k.Fits source
  /-- The cuts that are emitted are not empty and lie one behind the other. -/
  tile : Cut.Tile (Text.ofString source).size 0 c.emitted
  gaps_apart : c.emitted.IsChain fun j k => ¬(j.kind = .gap ∧ k.kind = .gap)
  emits : r.Emits (c.emitted.map (·.text (Text.ofString source)))
  ne_empty : ∀ k ∈ r.items, k.text ≠ ""
  whole : r.error? = none → String.join (r.items.map (·.text)) = source
  part : ∃ rest, String.join (r.items.map (·.text)) ++ rest = source
  of_empty : source = "" → r.items = []

theorem Coverage.of_emits {source : String} {c : Course (Text.ofString source).size}
    {r : Run Chunk} (hc : c.InOrder 0)
    (hr : r.Emits (c.emitted.map (·.text (Text.ofString source)))) : Coverage source c r := by
  have hjoin : String.join (c.emitted.map (·.text (Text.ofString source))) = source := by
    rw [hc.tile.join, Text.slice_all]
  have hne : ∀ k ∈ r.items, k.text ≠ "" := by
    intro k hk
    obtain ⟨d, hd, hdk⟩ := List.mem_map.1 (hr.isPrefix.subset (List.mem_map_of_mem hk))
    exact hdk ▸ hc.tile.text_ne_empty d hd
  obtain ⟨rest, hrest⟩ := hr.isPrefix
  have hpart : String.join (r.items.map (·.text)) ++ String.join rest = source := by
    rw [← String.join_append, hrest, hjoin]
  refine ⟨hc.fits, hc.tile, c.gaps_apart, hr, hne, fun he => ?_, ⟨_, hpart⟩, fun he => ?_⟩
  · rw [hr.all he, hjoin]
  · cases hi : r.items with
    | nil => rfl
    | cons k ks =>
      have : k.text = "" := by
        rw [he, hi, List.map_cons, String.join_cons] at hpart
        simp_all
      exact absurd this (hne k (by simp [hi]))

/-- However the languages inside the matches fare and wherever the limits cut it short, a scan
covers its source from the start on, and all of it if it succeeds. -/
theorem scan_covers [Engine] (c : Catalogue) (o : Options) (levels : Nat) (l : Lexer)
    (source : String) (cache : Cache) (count : Nat) (h : l.GoesAhead (Text.ofString source)) :
    Coverage source (l.course (Text.ofString source))
      (scan c o levels l (Text.ofString source) cache count) :=
  .of_emits (Lexer.course_inOrder h) (scan_emits c o levels cache count h)

/-- Runs of `b`, which may be empty, and an `x` that asks for a language that is not there. -/
def runsOfB : Definition :=
  ⟨"b", "B", .names [], [⟨"x", .ofList [(0, .language "nowhere")]⟩, ⟨"b*", .ofList [(0, .scope "B")]⟩]⟩

/-- Empty matches before characters of one and of two bytes, a match, and then one that fails: the
chunks before it are there, and the gap in front of it. -/
theorem scan_covers_runsOfB : ∃ l, Lexer.compile runsOfB = .ok l ∧
    l.GoesAhead (Text.ofString "aébb x") ∧
    Coverage "aébb x" (l.course (Text.ofString "aébb x"))
      (scan .empty {} 16 l (Text.ofString "aébb x") .empty 0) ∧
    (scan .empty {} 16 l (Text.ofString "aébb x") .empty 0).items.map (·.text) =
      ["aé", "bb", " "] := by
  have hp : (Lexer.compile runsOfB).toOption.any fun l =>
      (scan .empty {} 16 l (Text.ofString "aébb x") .empty 0).items.map (·.text) =
        ["aé", "bb", " "] := by decide +kernel
  obtain ⟨l, hl, hp⟩ := exists_ok_of_any hp
  have hplain : runsOfB.isPlain := by decide +kernel
  have hg := Lexer.goesAhead_of_plain hl hplain (Text.ofString "aébb x")
  exact ⟨l, hl, hg, scan_covers _ _ _ _ _ _ _ hg, of_decide_eq_true hp⟩

end ScopeLexer
