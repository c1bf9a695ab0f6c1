import ScopeLexer.Proofs.Scan.Containment

/-! Where scopes lie in the whole text. A reference follows the searches through a text and records
every part of a match that becomes a scope, in bytes from the start of the whole text; in a part that
is in another language it goes on at once. It knows no chunks, no forests and no limits. A scan that
succeeds has scopes at exactly these places, however often they were moved on the way. -/

namespace ScopeLexer

open ScopeLexer.Language Regex

/-- A name, and the first byte and the one behind the last. -/
abbrev Record := String × Nat × Nat

/-- The groups of a match, but not the match itself, that have a target and share some text with the
match, as far as they do. -/
def Language.Lexer.clipped {n origin : Nat} (l : Lexer) (m : Match n origin) :
    List (Nat × Nat × Target) :=
  (l.targets.zipIdx.drop 1).filterMap fun (target?, i) =>
    match target?, m.group? i with
    | some target, some g =>
      if max m.span.start g.start < min m.span.stop g.stop then
        some (max m.span.start g.start, min m.span.stop g.stop, target)
      else none
    | _, _ => none

/-- What the reference has to do in a text that begins at byte `base` of the whole: search from
`origin` on, or record the parts of a match. -/
inductive Task
  | search (base : Nat) (l : Lexer) (text : Text) (origin : Nat)
  | parts (base : Nat) (text : Text) (ps : List (Nat × Nat × Target))

/-- What the reference records; `find` gives the lexers of names. -/
inductive Absolute (find : String → Option Lexer) : Task → List Record → Prop
  | none {base l text origin} (hs : l.regex.search text origin = none) :
      Absolute find (.search base l text origin) []
  | last {base l text origin m} (hs : l.regex.search text origin = some m)
      (he : m.span.start = m.span.stop) (hn : m.span.stop = text.size) :
      Absolute find (.search base l text origin) []
  | empty {base l text origin m recs} (hs : l.regex.search text origin = some m)
      (he : m.span.start = m.span.stop) (hlt : m.span.stop < text.size)
      (hr : Absolute find (.search base l text (m.span.stop + 1)) recs) :
      Absolute find (.search base l text origin) recs
  | found {base l text origin m here rest} (hs : l.regex.search text origin = some m)
      (hne : m.span.start ≠ m.span.stop) (hp : Absolute find (.parts base text (l.clipped m)) here)
      (hr : Absolute find (.search base l text m.span.stop) rest) :
      Absolute find (.search base l text origin) (here ++ rest)
  | nil {base text} : Absolute find (.parts base text []) []
  | scope {base text start stop name ps recs} (hp : Absolute find (.parts base text ps) recs) :
      Absolute find (.parts base text ((start, stop, .scope name) :: ps))
        ((name, base + text.offset start, base + text.offset stop) :: recs)
  | language {base text start stop name ps l here recs} (hf : find name = some l)
      (ha : Absolute find (.search (base + text.offset start) l (text.extract start stop) 0) here)
      (hp : Absolute find (.parts base text ps) recs) :
      Absolute find (.parts base text ((start, stop, .language name) :: ps)) (here ++ recs)

variable {find : String → Option Lexer}

/-- Searches and names leave the reference no choice. -/
theorem Absolute.unique {task : Task} {rs ts : List Record} (h : Absolute find task rs)
    (h' : Absolute find task ts) : rs = ts := by
  induction h generalizing ts with
  | none hs => cases h' <;> simp_all
  | last hs he hn =>
    cases h' with
    | none hs' => simp [hs] at hs'
    | last _ => rfl
    | empty hs' _ hlt =>
      obtain rfl := Option.some.inj (hs.symm.trans hs')
      omega
    | found hs' hne =>
      obtain rfl := Option.some.inj (hs.symm.trans hs')
      exact absurd he hne
  | empty hs he hlt _ ih =>
    cases h' with
    | none hs' => simp [hs] at hs'
    | last hs' _ hn =>
      obtain rfl := Option.some.inj (hs.symm.trans hs')
      omega
    | empty hs' _ _ hr =>
      obtain rfl := Option.some.inj (hs.symm.trans hs')
      exact ih hr
    | found hs' hne =>
      obtain rfl := Option.some.inj (hs.symm.trans hs')
      exact absurd he hne
  | found hs hne _ _ ihp ihr =>
    cases h' with
    | none hs' => simp [hs] at hs'
    | last hs' he =>
      obtain rfl := Option.some.inj (hs.symm.trans hs')
      exact absurd he hne
    | empty hs' he =>
      obtain rfl := Option.some.inj (hs.symm.trans hs')
      exact absurd he hne
    | found hs' _ hp hr =>
      obtain rfl := Option.some.inj (hs.symm.trans hs')
      rw [ihp hp, ihr hr]
  | nil =>
    cases h'
    rfl
  | scope _ ih =>
    cases h' with
    | scope hp => rw [ih hp]
  | language hf _ _ iha ihp =>
    cases h' with
    | language hf' ha hp =>
      obtain rfl := Option.some.inj (hf.symm.trans hf')
      rw [iha ha, ihp hp]

theorem Language.Lexer.clipped_eq {n origin : Nat} (l : Lexer) (m : Match n origin) :
    l.clipped m = (l.parts m).map fun p => (p.1.start, p.1.stop, p.2) := by
  unfold clipped parts
  rw [List.map_filterMap]
  congr 1
  funext ⟨target?, i⟩
  rcases target? with _ | target <;> rcases hg : m.group? i with _ | g
  · simp [hg]
  · simp [hg]
  · simp [hg]
  · simp only [hg, Span.overlap?, Option.bind_eq_bind, Option.bind_some, Option.pure_def]
    by_cases hlt : max m.span.start g.start < min m.span.stop g.stop
    · rw [if_pos hlt, dif_pos hlt]
      rfl
    · rw [if_neg hlt, dif_neg hlt]
      rfl

/-! ### Records of chunks -/

namespace Scope

def record (base : Nat) (s : Scope) : Record := (s.name, base + s.start, base + s.stop)

/-- The records of all scopes in some trees, which count from byte `base`. -/
def records (base : Nat) (ss : List Scope) : List Record := (preorderAll ss).map (record base)

theorem records_append (base : Nat) (ss ts : List Scope) :
    records base (ss ++ ts) = records base ss ++ records base ts := by
  rw [records, preorderAll_append, List.map_append]
  rfl

theorem records_shift (base k : Nat) (ss : List Scope) :
    records base (ss.map (shift k)) = records (base + k) ss := by
  rw [records, records, preorderAll_map_shift, List.map_map]
  refine List.map_congr_left fun s _ => ?_
  simp only [Function.comp_apply, record, shift_name, shift_start, shift_length, stop]
  congr 2 <;> omega

theorem records_forest (base : Nat) (ss : List Scope) :
    (records base (forest ss)).Perm (records base ss) := by
  have hrecords : ∀ ts, records base ts =
      (labels ts).map fun x => (x.1, base + x.2.1, base + (x.2.1 + x.2.2)) := by
    intro ts
    rw [labels, List.map_map]
    rfl
  rw [hrecords, hrecords]
  exact (labels_forest_perm ss).map _

end Scope

/-- The records of consecutive chunks, the first of which begins at byte `base`. -/
def Chunk.recordsFrom (base : Nat) : List Chunk → List Record
  | [] => []
  | d :: ds => Scope.records base d.scopes ++ recordsFrom (base + d.size) ds

theorem Chunk.records_scopesFrom (base offset : Nat) (ds : List Chunk) :
    Scope.records base (scopesFrom offset ds) = recordsFrom (base + offset) ds := by
  induction ds generalizing offset with
  | nil => rfl
  | cons d ds ih =>
    rw [scopesFrom, Scope.records_append, Scope.records_shift, ih, recordsFrom, Nat.add_assoc]

theorem Chunk.recordsFrom_gap {text : Text} {a b : Nat} (hab : a ≤ b) (base : Nat)
    (ds : List Chunk) : recordsFrom (base + text.offset a) (Scan.gap text a b ++ ds) =
      recordsFrom (base + text.offset b) ds := by
  unfold Scan.gap
  split
  · have hw := text.offset_add_width hab
    rw [List.singleton_append, recordsFrom, Nat.add_assoc]
    exact congrArg (fun n => recordsFrom (base + n) ds) hw
  · obtain rfl : a = b := by omega
    rfl

/-! ### Runs that succeed -/

namespace Scan

variable {c : Catalogue} {k₀ k : Cache} {embed : Embed} {o : Options} {l : Lexer} {text : Text}
  {count : Nat}

variable [Engine]

/-- Where another language succeeds in a part, it finds what the reference records there, as long as
names have the lexers that they have in `k₀`. -/
def EmbedsAbsolute (c : Catalogue) (k₀ : Cache) (embed : Embed) : Prop :=
  ∀ name text k count, c.Agrees k₀ k → (embed name text k count).error? = none →
    ∃ l, c.lexer? k₀ name = some l ∧ ∀ base, ∃ recs,
      Absolute (c.lexer? k₀) (.search base l text 0) recs ∧
        (Chunk.recordsFrom base (embed name text k count).items).Perm recs

theorem allScopes_absolute (h : EmbedsAbsolute c k₀ embed) (hl : KeepsLexers c embed)
    (hk : c.Agrees k₀ k) {a : Nat} {parts : List (Span text.size × Target)}
    (hp : ∀ p ∈ parts, a ≤ p.1.start) (base : Nat)
    (hok : (allScopes embed text a parts k count).error? = none) :
    ∃ recs, Absolute (c.lexer? k₀)
        (.parts base text (parts.map fun p => (p.1.start, p.1.stop, p.2))) recs ∧
      (Scope.records (base + text.offset a)
        (allScopes embed text a parts k count).items).Perm recs := by
  induction parts generalizing k count with
  | nil => exact ⟨[], .nil, .refl _⟩
  | cons p parts ih =>
    obtain ⟨part, target⟩ := p
    obtain ⟨ha, hp⟩ := List.forall_mem_cons.1 hp
    obtain ⟨hfirst, hrest, hitems⟩ := Run.andThen_error? hok
    obtain ⟨recs, hrecs, hperm⟩ :=
      ih (hk.trans (partScopes_agrees hl a part target)) hp hrest
    have hstart := text.offset_add_width ha
    have hstop := text.offset_add_width part.start_le_stop
    rw [allScopes, hitems, Scope.records_append]
    cases target with
    | scope name =>
      refine ⟨_, .scope hrecs, ?_⟩
      rw [← hstop, ← hstart]
      simp only [partScopes, Run.done, Scope.leaf, Scope.records, Scope.preorderAll, Scope.preorder,
        List.append_nil, List.map_cons, List.map_nil, Scope.record, Scope.stop,
        List.singleton_append, ← Nat.add_assoc] at hperm ⊢
      exact hperm.cons _
    | language name =>
      obtain ⟨l, hname, habs⟩ := h name _ k count hk hfirst
      obtain ⟨here, hhere, hpermHere⟩ := habs (base + text.offset part.start)
      refine ⟨_, .language hname hhere hrecs, ?_⟩
      refine List.Perm.append ?_ hperm
      simp only [partScopes, Run.mapItems]
      rwa [Scope.records_shift, Chunk.records_scopesFrom, Nat.add_zero, Nat.add_assoc, hstart]

theorem take_absolute (h : EmbedsAbsolute c k₀ embed) (hl : KeepsLexers c embed)
    (hk : c.Agrees k₀ k) {cursor origin : Nat} {m : Match text.size origin}
    (hc : cursor ≤ m.span.start) (base : Nat)
    (hok : (take embed o l text cursor m k count).error? = none) :
    ∃ recs, Absolute (c.lexer? k₀) (.parts base text (l.clipped m)) recs ∧
      ∀ ds, (Chunk.recordsFrom (base + text.offset cursor)
        ((take embed o l text cursor m k count).items ++ ds)).Perm
          (recs ++ Chunk.recordsFrom (base + text.offset m.span.stop) ds) := by
  unfold take at hok ⊢
  have heq := Run.counted_eq hok
  simp only at heq hok ⊢
  rw [heq] at hok ⊢
  have hparts : ∀ p ∈ l.parts m, m.span.start ≤ p.1.start := fun p hp => (Lexer.parts_inside hp).1
  obtain ⟨recs, hrecs, hperm⟩ := allScopes_absolute h hl hk hparts base hok
  have hsize : text.offset m.span.start + Chunk.size ⟨text.slice m.span.start m.span.stop,
      Scope.forest (allScopes embed text m.span.start (l.parts m) k (count + 1)).items⟩ =
        text.offset m.span.stop := text.offset_add_width m.span.start_le_stop
  refine ⟨recs, (l.clipped_eq m).symm ▸ hrecs, fun ds => ?_⟩
  replace hok : (allScopes embed text m.span.start (l.parts m) k (count + 1)).error? = none := hok
  simp only [Run.spend, hok, Option.isSome_none, Bool.false_eq_true, if_false, List.append_assoc]
  rw [Chunk.recordsFrom_gap hc, List.singleton_append, Chunk.recordsFrom, Nat.add_assoc, hsize]
  exact ((Scope.records_forest _ _).trans hperm).append_right _

theorem follow_absolute (h : EmbedsAbsolute c k₀ embed) (hl : KeepsLexers c embed)
    (hk : c.Agrees k₀ k) (hg : l.GoesAhead text) {cursor origin : Nat} (hc : cursor ≤ origin)
    (hn : cursor ≤ text.size) (base : Nat)
    (hok : (follow embed o l text (l.courseFrom text cursor origin) k count).error? = none) :
    ∃ recs, Absolute (c.lexer? k₀) (.search base l text origin) recs ∧
      (Chunk.recordsFrom (base + text.offset cursor)
        (follow embed o l text (l.courseFrom text cursor origin) k count).items).Perm recs := by
  have hgaps : ∀ a, a ≤ text.size →
      Chunk.recordsFrom (base + text.offset a) (gap text a text.size) = [] := by
    intro a ha
    have hgap : Chunk.recordsFrom (base + text.offset a) (gap text a text.size ++ []) = [] :=
      Chunk.recordsFrom_gap ha base []
    rwa [List.append_nil] at hgap
  fun_induction Lexer.courseFrom l text cursor origin generalizing k count with
  | case1 cursor origin hm =>
    refine ⟨[], .none hm, ?_⟩
    rw [follow, Run.done, hgaps cursor hn]
  | case2 cursor origin m hm he hlt ih =>
    obtain ⟨hpass, hrest, hitems⟩ := Run.andThen_error? hok
    have hcount := Run.counted_eq hpass
    have hstop := m.origin_le_stop
    rw [hcount] at hrest
    obtain ⟨recs, hrecs, hperm⟩ := ih hk (by omega) hn hrest
    refine ⟨recs, .empty hm he hlt hrecs, ?_⟩
    rw [follow, hitems, hcount]
    exact hperm
  | case3 cursor origin m hm he hlt =>
    obtain ⟨hpass, _, hitems⟩ := Run.andThen_error? hok
    have hstop := m.span.stop_le
    refine ⟨[], .last hm he (by omega), ?_⟩
    rw [follow, hitems, Run.counted_eq hpass]
    exact List.Perm.of_eq (hgaps cursor hn)
  | case4 cursor origin m hm hne hlt ih =>
    obtain ⟨htake, hrest, hitems⟩ := Run.andThen_error? hok
    have hstart := hg origin m hm
    obtain ⟨here, hhere, hpermHere⟩ := take_absolute h hl hk (Nat.le_trans hc hstart) base htake
    obtain ⟨recs, hrecs, hperm⟩ := ih (hk.trans (take_agrees hl cursor m)) (Nat.le_refl _)
      m.span.stop_le hrest
    refine ⟨here ++ recs, .found hm hne hhere hrecs, ?_⟩
    rw [follow, hitems]
    exact (hpermHere _).trans (hperm.append_left here)
  | case5 cursor origin m hm hne hlt =>
    have hstart := hg origin m hm
    have hstop := m.span.start_le_stop
    omega

theorem embedsAbsolute_refused (o : Options) : EmbedsAbsolute c k₀ (refused o) :=
  fun _ _ _ _ _ hok => (nomatch hok)

theorem embedsAbsolute_embedded {scan : Lexer → Text → Cache → Nat → Run Chunk}
    (ha : c.GoesAhead k₀)
    (h : ∀ l text k count, c.Agrees k₀ k → l.GoesAhead text →
      (scan l text k count).error? = none → ∀ base, ∃ recs,
        Absolute (c.lexer? k₀) (.search base l text 0) recs ∧
          (Chunk.recordsFrom base (scan l text k count).items).Perm recs) :
    EmbedsAbsolute c k₀ (embedded c scan) := by
  intro name text k count hk hok
  rcases embedded_cases scan hk name text count with
    ⟨e, k', -, -, hrun⟩ | ⟨l, k', hk', hname, hrun⟩ <;> rw [hrun] at hok ⊢
  · cases hok
  · exact ⟨l, hname, h l text k' count hk' (ha name l hname text) hok⟩

end Scan

theorem scan_records [Engine] {c : Catalogue} {k₀ k : Cache} (ha : c.GoesAhead k₀)
    (hk : c.Agrees k₀ k) (o : Options) (levels : Nat) {l : Lexer} {text : Text}
    (hg : l.GoesAhead text) (count : Nat)
    (hok : (scan c o levels l text k count).error? = none) (base : Nat) :
    ∃ recs, Absolute (c.lexer? k₀) (.search base l text 0) recs ∧
      (Chunk.recordsFrom base (scan c o levels l text k count).items).Perm recs := by
  induction levels generalizing l text k count base with
  | zero =>
    have hf := Scan.follow_absolute (Scan.embedsAbsolute_refused o) (Scan.keepsLexers_refused o) hk
      hg (Nat.le_refl 0) (Nat.zero_le _) base hok
    rwa [Text.offset_zero, Nat.add_zero] at hf
  | succ levels ih =>
    have hf := Scan.follow_absolute
      (Scan.embedsAbsolute_embedded ha fun l text k count hk hg hok base =>
        ih hk hg count hok base)
      (Scan.keepsLexers_embedded (scan_agrees c o levels)) hk hg (Nat.le_refl 0) (Nat.zero_le _)
      base hok
    rwa [Text.offset_zero, Nat.add_zero] at hf

/-- The scopes of all chunks at all depths, each moved to where its chunk begins, are the records of
the reference, each as often as there; and the reference can record nothing else. -/
theorem scan_absolute [Engine] (c : Catalogue) (o : Options) (levels : Nat) (l : Lexer)
    (text : Text) (k : Cache) (count : Nat) (hl : l.GoesAhead text) (hc : c.GoesAhead k)
    {ds : List Chunk} (h : (scan c o levels l text k count).result = .ok ds) :
    ∃ recs, Absolute (c.lexer? k) (.search 0 l text 0) recs ∧ (Chunk.recordsFrom 0 ds).Perm recs ∧
      ∀ recs', Absolute (c.lexer? k) (.search 0 l text 0) recs' → recs' = recs := by
  unfold Run.result at h
  split at h
  · cases h
  · next hok =>
    obtain rfl := Except.ok.inj h
    obtain ⟨recs, hrecs, hperm⟩ := scan_records hc (.refl c k) o levels hl count hok 0
    exact ⟨recs, hrecs, hperm, fun recs' hrecs' => hrecs'.unique hrecs⟩

theorem scan_absolute_tags : ∃ l ds, Lexer.compile tags = .ok l ∧
    l.GoesAhead (Text.ofString "xé<é<a>>y") ∧ (Catalogue.ofList [tags]).GoesAhead .empty ∧
    (scan (.ofList [tags]) {} 16 l (Text.ofString "xé<é<a>>y") .empty 0).result = .ok ds ∧
    ds.map (·.text) = ["x", "é<é<a>>", "y"] ∧
    ∃ recs, Absolute ((Catalogue.ofList [tags]).lexer? .empty)
        (.search 0 l (Text.ofString "xé<é<a>>y") 0) recs ∧
      (Chunk.recordsFrom 0 ds).Perm recs := by
  have hscan : (Lexer.compile tags).toOption.any fun l =>
      (scan (.ofList [tags]) {} 16 l (Text.ofString "xé<é<a>>y") .empty 0).error?.isNone &&
        (scan (.ofList [tags]) {} 16 l (Text.ofString "xé<é<a>>y") .empty 0).items.map (·.text) =
          ["x", "é<é<a>>", "y"] := by
    decide +kernel
  obtain ⟨l, hl, hscan⟩ := exists_ok_of_any hscan
  simp only [Bool.and_eq_true, decide_eq_true_eq, Option.isNone_iff_eq_none] at hscan
  obtain ⟨hok, htexts⟩ := hscan
  have hplain : tags.isPlain := by decide +kernel
  have hg := Lexer.goesAhead_of_plain hl hplain (Text.ofString "xé<é<a>>y")
  have hr : (scan (.ofList [tags]) {} 16 l (Text.ofString "xé<é<a>>y") .empty 0).result =
      .ok (scan (.ofList [tags]) {} 16 l (Text.ofString "xé<é<a>>y") .empty 0).items := by
    rw [Run.result, hok]
  obtain ⟨recs, hrecs, hperm, _⟩ := scan_absolute _ _ _ _ _ _ _ hg tags_goAhead hr
  exact ⟨l, _, hl, hg, tags_goAhead, hr, htexts, recs, hrecs, hperm⟩

end ScopeLexer
