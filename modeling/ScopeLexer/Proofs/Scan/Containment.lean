import ScopeLexer.Proofs.Scan.Cache
import ScopeLexer.Proofs.Scan.Coverage
import ScopeLexer.Proofs.Scope.Forest
import ScopeLexer.Proofs.Scope.Token

/-! Scopes stay inside. A part of a match lies inside the match, the chunks that another language
finds in it lie inside the part, and building a forest puts scopes only where they belong; so every
scope of a chunk lies inside the scope around it and inside the text of the chunk. -/

namespace ScopeLexer

open ScopeLexer.Language Regex

/-- Every lexer that a name has searches ahead, whatever the text. -/
def Catalogue.GoesAhead [Engine] (c : Catalogue) (k : Cache) : Prop :=
  ∀ name l, c.lexer? k name = some l → ∀ text, l.GoesAhead text

/-! ### Parts -/

theorem Regex.Span.overlap?_eq_some {n : Nat} {s t u : Span n} (h : s.overlap? t = some u) :
    s.start ≤ u.start ∧ u.start < u.stop ∧ u.stop ≤ s.stop := by
  unfold overlap? at h
  split at h
  · next hlt =>
    obtain rfl := Option.some.inj h
    exact ⟨Nat.le_max_left _ _, hlt, Nat.min_le_left _ _⟩
  · cases h

/-- A part takes some text of its match, wherever its group lies. -/
theorem Language.Lexer.parts_inside {n origin : Nat} {l : Lexer} {m : Match n origin}
    {p : Span n × Target} (h : p ∈ l.parts m) :
    m.span.start ≤ p.1.start ∧ p.1.start < p.1.stop ∧ p.1.stop ≤ m.span.stop := by
  obtain ⟨⟨target, i⟩, _, h⟩ := List.mem_filterMap.1 h
  simp only [Option.bind_eq_bind, Option.bind_eq_some_iff, Option.pure_def,
    Option.some.injEq] at h
  obtain ⟨g, _, u, hu, t, _, rfl⟩ := h
  exact Span.overlap?_eq_some hu

namespace Run

variable {α : Type} {P : α → Prop}

theorem forall_andThen {r : Run α} {next : Cache → Nat → Run α} (h : ∀ x ∈ r.items, P x)
    (hn : ∀ x ∈ (next r.cache r.spent).items, P x) : ∀ x ∈ (r.andThen next).items, P x := by
  unfold andThen
  cases r.error? with
  | some e => exact h
  | none => exact List.forall_mem_append.2 ⟨h, hn⟩

theorem forall_counted {o : Options} {k : Cache} {count : Nat} {next : Run α}
    (h : ∀ x ∈ next.items, P x) : ∀ x ∈ (Run.counted o k count next).items, P x := by
  unfold counted
  split
  · split
    · exact fun x hx => (nomatch hx)
    · exact h
  · exact h

end Run

/-- The scopes of a chunk take whole characters of its text, and each holds its children. -/
def Chunk.Encloses (k : Chunk) : Prop := ∀ s ∈ k.scopes, s.Nested (Text.ofString k.text).Spans

/-- The scopes of chunks that lie one behind the other stay inside the text they were cut from. -/
theorem Chunk.scopesFrom_nested {text : Text} {start : Nat} {cs : List Cut}
    (ht : Cut.Tile text.size start cs) {ks : List Chunk}
    (hp : ks.map (·.text) <+: cs.map (·.text text)) (hk : ∀ k ∈ ks, k.Encloses) :
    ∀ s ∈ scopesFrom (text.offset start) ks, s.Nested text.Spans := by
  induction ks generalizing start cs with
  | nil => simp [scopesFrom]
  | cons k ks ih =>
    cases cs with
    | nil => simp at hp
    | cons d ds =>
      obtain ⟨rfl, hlt, hds⟩ := ht
      obtain ⟨hkd, hp⟩ := List.cons_prefix_cons.1 hp
      have htext : k.text = d.text text := hkd
      obtain ⟨hk, hks⟩ := List.forall_mem_cons.1 hk
      have hsize : text.offset d.start + k.size = text.offset d.stop := by
        rw [size, htext]
        exact text.offset_add_width (Nat.le_of_lt hlt)
      rw [scopesFrom, hsize]
      refine List.forall_mem_append.2 ⟨fun s hs => ?_, ih hds hp hks⟩
      obtain ⟨t, ht, rfl⟩ := List.mem_map.1 hs
      have hn := hk t ht
      rw [htext, Cut.text, Text.ofString_slice] at hn
      exact hn.shift fun _ _ hspan => hspan.of_piece hds.le

namespace Scan

variable {c : Catalogue} {k₀ k : Cache} {embed : Embed} {o : Options} {l : Lexer} {text : Text}
  {count : Nat}

theorem gap_encloses (a b : Nat) : ∀ d ∈ gap text a b, d.Encloses := by
  unfold gap
  split
  · exact List.forall_mem_singleton.2 fun s hs => (nomatch hs)
  · exact fun d hd => (nomatch hd)

variable [Engine]

/-- What another language finds in a part stays inside its text, as long as names have the lexers
that they have in `k₀`. -/
def EmbedsInside (c : Catalogue) (k₀ : Cache) (embed : Embed) : Prop :=
  ∀ name text k count, c.Agrees k₀ k →
    ∀ s ∈ Chunk.scopesFrom 0 (embed name text k count).items, s.Nested text.Spans

theorem partScopes_nested (h : EmbedsInside c k₀ embed) (hk : c.Agrees k₀ k) {a b : Nat}
    {part : Span text.size} (ha : a ≤ part.start) (hlt : part.start < part.stop)
    (hb : part.stop ≤ b) (hn : b ≤ text.size) (target : Target) :
    ∀ s ∈ (partScopes embed text a part target k count).items,
      s.Nested (Text.Spans (text.extract a b)) := by
  cases target with
  | scope name =>
    intro s hs
    obtain rfl := List.mem_singleton.1 hs
    exact Scope.nested_leaf (Text.spans_of_lt ha hlt hb hn)
  | language name =>
    intro s hs
    obtain ⟨t, ht, rfl⟩ := List.mem_map.1 hs
    exact (h name _ k count hk t ht).shift fun _ _ hspan => hspan.of_extract ha hb hn

theorem allScopes_nested (h : EmbedsInside c k₀ embed) (hl : KeepsLexers c embed)
    (hk : c.Agrees k₀ k) {a b : Nat} (hn : b ≤ text.size) {parts : List (Span text.size × Target)}
    (hp : ∀ p ∈ parts, a ≤ p.1.start ∧ p.1.start < p.1.stop ∧ p.1.stop ≤ b) :
    ∀ s ∈ (allScopes embed text a parts k count).items,
      s.Nested (Text.Spans (text.extract a b)) := by
  induction parts generalizing k count with
  | nil => exact fun s hs => (nomatch hs)
  | cons p parts ih =>
    obtain ⟨⟨ha, hlt, hb⟩, hp⟩ := List.forall_mem_cons.1 hp
    exact Run.forall_andThen (partScopes_nested h hk ha hlt hb hn p.2)
      (ih (hk.trans (partScopes_agrees hl a p.1 p.2)) hp)

theorem take_encloses (h : EmbedsInside c k₀ embed) (hl : KeepsLexers c embed)
    (hk : c.Agrees k₀ k) (cursor : Nat) {origin : Nat} (m : Match text.size origin) :
    ∀ d ∈ (take embed o l text cursor m k count).items, d.Encloses := by
  refine Run.forall_counted (List.forall_mem_append.2 ⟨gap_encloses _ _, ?_⟩)
  split
  · exact fun d hd => (nomatch hd)
  · refine List.forall_mem_singleton.2 ?_
    rw [Chunk.Encloses, Text.ofString_slice]
    exact Scope.nested_forest (allScopes_nested h hl hk m.span.stop_le fun _ => Lexer.parts_inside)

theorem takeAgain_encloses (h : EmbedsInside c k₀ embed) (hl : KeepsLexers c embed)
    (hk : c.Agrees k₀ k) {origin : Nat} (m : Match text.size origin) (more cursor : Nat) :
    ∀ d ∈ (takeAgain embed o l text m more cursor k count).items, d.Encloses := by
  induction more generalizing cursor k count with
  | zero => exact Run.forall_andThen (take_encloses h hl hk cursor m) fun d hd => (nomatch hd)
  | succ more ih =>
    exact Run.forall_andThen (take_encloses h hl hk cursor m)
      (ih (hk.trans (take_agrees hl cursor m)) m.span.stop)

theorem follow_encloses (h : EmbedsInside c k₀ embed) (hl : KeepsLexers c embed)
    (hk : c.Agrees k₀ k) (course : Course text.size) :
    ∀ d ∈ (follow embed o l text course k count).items, d.Encloses := by
  induction course generalizing k count with
  | finish cursor => exact gap_encloses _ _
  | pass m rest ih =>
    exact Run.forall_andThen (Run.forall_counted fun d hd => (nomatch hd))
      (ih (hk.trans (Run.agrees_counted (.refl c k))))
  | take cursor m rest ih =>
    exact Run.forall_andThen (take_encloses h hl hk cursor m)
      (ih (hk.trans (take_agrees hl cursor m)))
  | again cursor m => exact takeAgain_encloses h hl hk m _ cursor

theorem embedsInside_refused (o : Options) : EmbedsInside c k₀ (refused o) :=
  fun _ _ _ _ _ _ hs => (nomatch hs)

theorem embedsInside_embedded {scan : Lexer → Text → Cache → Nat → Run Chunk}
    (ha : c.GoesAhead k₀)
    (h : ∀ l text k count, c.Agrees k₀ k → ∀ d ∈ (scan l text k count).items, d.Encloses)
    (he : ∀ l text k count, l.GoesAhead text →
      (scan l text k count).Emits ((l.course text).emitted.map (·.text text))) :
    EmbedsInside c k₀ (embedded c scan) := by
  intro name text k count hk s hs
  rcases embedded_cases scan hk name text count with
    ⟨e, k', -, -, hrun⟩ | ⟨l, k', hk', hname, hrun⟩ <;> rw [hrun] at hs
  · cases hs
  · have hl := ha name l hname text
    have ht := (Lexer.course_inOrder hl).tile
    rw [← Text.offset_zero text] at hs
    exact Chunk.scopesFrom_nested ht (he l text k' count hl).isPrefix (h l text k' count hk') s hs

end Scan

/-- Languages inside each other, down to any level: the scopes stay inside the text of their
chunk. -/
theorem scan_encloses [Engine] {c : Catalogue} {k₀ k : Cache} (ha : c.GoesAhead k₀)
    (hk : c.Agrees k₀ k) (o : Options) (levels : Nat) (l : Lexer) (text : Text) (count : Nat) :
    ∀ d ∈ (scan c o levels l text k count).items, d.Encloses := by
  induction levels generalizing l text k count with
  | zero =>
    exact Scan.follow_encloses (Scan.embedsInside_refused o) (Scan.keepsLexers_refused o) hk _
  | succ levels ih =>
    exact Scan.follow_encloses
      (Scan.embedsInside_embedded ha (fun l text k count hk => ih hk l text count)
        fun l text k count => scan_emits c o levels k count)
      (Scan.keepsLexers_embedded (scan_agrees c o levels)) hk _

/-! ### Bytes -/

/-- Some bytes of a text that begin and end with a character. -/
structure Fits (text : String) (start stop : Nat) : Prop where
  start_lt_stop : start < stop
  stop_le : stop ≤ text.utf8ByteSize
  start_valid : (String.Pos.Raw.mk start).IsValid text
  stop_valid : (String.Pos.Raw.mk stop).IsValid text

theorem fits_of_spans {text : String} {start length : Nat}
    (h : (Text.ofString text).Spans start length) : Fits text start (start + length) := by
  obtain ⟨i, j, hij, hj, rfl, hstop⟩ := h
  rw [hstop]
  refine ⟨Text.offset_lt hij hj, ?_, Text.offset_isValid _ _, Text.offset_isValid _ _⟩
  rw [← Text.offset_size text]
  exact Text.offset_mono _ hj

theorem cut_valid {text : String} {roots : List Scope}
    (h : ∀ s ∈ roots, s.Nested (Text.ofString text).Spans) {x : Nat}
    (hx : x ∈ Scope.cuts roots text.utf8ByteSize) :
    x ≤ text.utf8ByteSize ∧ (String.Pos.Raw.mk x).IsValid text := by
  rcases Scope.mem_cuts.1 hx with rfl | rfl | ⟨s, hs, hx⟩
  · exact ⟨Nat.zero_le _, Text.offset_zero (Text.ofString text) ▸ Text.offset_isValid text 0⟩
  · exact ⟨Nat.le_refl _, Text.offset_size text ▸ Text.offset_isValid text _⟩
  · obtain ⟨r, hr, hsr⟩ := Scope.mem_preorderAll.1 hs
    have hf : Fits text s.start s.stop := fits_of_spans (h r hr s hsr).1
    have hlt := hf.start_lt_stop
    have hle := hf.stop_le
    rcases hx with rfl | rfl
    · rw [Nat.min_eq_left (by omega)]
      exact ⟨by omega, hf.start_valid⟩
    · rw [Nat.min_eq_left hle]
      exact ⟨hle, hf.stop_valid⟩

/-- The scopes of a chunk at all depths, as they stand in it and as walks visit them, and its tokens
lie in its text between characters; every scope holds its children. -/
structure Chunk.Contained (d : Chunk) : Prop where
  scopes : ∀ s ∈ Scope.preorderAll d.scopes, 0 < s.length ∧ Fits d.text s.start s.stop ∧
    ∀ u ∈ s.children, s.contains u.start u.length
  visited : ∀ r ∈ d.scopes, ∀ x ∈ r.walk.toList, Fits d.text x.2.start x.2.stop
  tokens : ∀ t ∈ d.tokens, Fits d.text t.start t.stop

theorem Chunk.Encloses.contained {d : Chunk} (h : d.Encloses) : d.Contained where
  scopes s hs := by
    obtain ⟨r, hr, hsr⟩ := Scope.mem_preorderAll.1 hs
    obtain ⟨hspan, hchildren⟩ := h r hr s hsr
    have hf : Fits d.text s.start s.stop := fits_of_spans hspan
    have hlt : s.start < s.start + s.length := hf.start_lt_stop
    exact ⟨by omega, hf, hchildren⟩
  visited r hr x hx := by
    have hmem : x.2 ∈ r.preorder := Scope.scopes_walk r ▸ List.mem_map_of_mem hx
    exact fits_of_spans (h r hr _ hmem).1
  tokens t ht := by
    obtain ⟨hstart, hstop, hlt⟩ := Scope.token_cuts ht
    obtain ⟨_, hstart⟩ := cut_valid h hstart
    obtain ⟨hle, hstop⟩ := cut_valid h hstop
    exact ⟨hlt, hle, hstart, hstop⟩

/-- However a scan ends, the scopes of its chunks are contained in their parents and in the text;
and a part begins and ends within its match, so that its place there is a difference of bytes. -/
theorem scan_contains [Engine] (c : Catalogue) (o : Options) (levels : Nat) (l : Lexer)
    (text : Text) (k : Cache) (count : Nat) (h : c.GoesAhead k) :
    (∀ d ∈ (scan c o levels l text k count).items, d.Contained) ∧
    ∀ (l' : Lexer) (text' : Text) (origin : Nat) (m : Match text'.size origin),
      ∀ p ∈ l'.parts m, text'.offset m.span.start ≤ text'.offset p.1.start ∧
        text'.offset p.1.start < text'.offset p.1.stop ∧
          text'.offset p.1.stop ≤ text'.offset m.span.stop := by
  refine ⟨fun d hd => ?_, fun l' text' origin m p hp => ?_⟩
  · exact (scan_encloses h (.refl c k) o levels l text count d hd).contained
  · obtain ⟨ha, hlt, hb⟩ := Lexer.parts_inside hp
    exact ⟨Text.offset_mono _ ha, Text.offset_lt hlt p.1.stop_le, Text.offset_mono _ hb⟩

/-- With an empty cache the lexers of a catalogue search ahead if none of its definitions has
look-behinds or kept starts. -/
theorem Catalogue.goesAhead_of_plain {c : Catalogue}
    (h : ∀ d ∈ c.definitions, d.isPlain) : c.GoesAhead .empty := by
  intro name l hl text
  obtain ⟨d, hd, hl⟩ := Option.bind_eq_some_iff.1 hl
  rw [Cache.fetch_fst] at hl
  cases hm : Lexer.compile d with
  | error e => simp [hm, Cache.get?, Cache.empty, Except.toOption] at hl
  | ok l' =>
    obtain rfl : l' = l := by simpa [hm, Cache.get?, Cache.empty, Except.toOption] using hl
    exact Lexer.goesAhead_of_plain hm (h d (find?_mem hd)) text

/-- Tags with tags inside; one group reaches past the end of its match. -/
def tags : Definition :=
  ⟨"tags", "Tags", .names ["nested"],
    [⟨"é<(.*(?=(>y?)))>",
      .ofList [(0, .scope "Tag"), (1, .language "nested"), (2, .scope "End")]⟩]⟩

theorem tags_goAhead : (Catalogue.ofList [tags]).GoesAhead .empty := by
  have hplain : (Catalogue.ofList [tags]).definitions.all (·.isPlain) := by decide +kernel
  exact Catalogue.goesAhead_of_plain (List.all_eq_true.1 hplain)

/-- One match in the text, and one in the part of it that is in the same language again. -/
theorem scan_contains_tags : ∃ l, Lexer.compile tags = .ok l ∧
    (Catalogue.ofList [tags]).GoesAhead .empty ∧
    (∀ d ∈ (scan (.ofList [tags]) {} 16 l (Text.ofString "xé<é<a>>y") .empty 0).items,
      d.Contained) ∧
    (scan (.ofList [tags]) {} 16 l (Text.ofString "xé<é<a>>y") .empty 0).items.map (·.text) =
      ["x", "é<é<a>>", "y"] ∧
    (scan (.ofList [tags]) {} 16 l (Text.ofString "xé<é<a>>y") .empty 0).spent = 2 := by
  have hscan : (Lexer.compile tags).toOption.any fun l =>
      (scan (.ofList [tags]) {} 16 l (Text.ofString "xé<é<a>>y") .empty 0).items.map (·.text) =
          ["x", "é<é<a>>", "y"] &&
        (scan (.ofList [tags]) {} 16 l (Text.ofString "xé<é<a>>y") .empty 0).spent = 2 := by
    decide +kernel
  obtain ⟨l, hl, hscan⟩ := exists_ok_of_any hscan
  simp only [Bool.and_eq_true, decide_eq_true_eq] at hscan
  exact ⟨l, hl, tags_goAhead, (scan_contains _ _ _ _ _ _ _ tags_goAhead).1, hscan⟩

end ScopeLexer
