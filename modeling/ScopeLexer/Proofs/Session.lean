import ScopeLexer.Proofs.Scan.Alike
import ScopeLexer.Session
import ScopeLexer.Regex.Search

/-! Sessions without a past. Lexers are made on first use and kept, so a session that has served
requests has another cache than a new one. As long as no definition takes the place of one whose
lexer was made, nothing else tells the two apart: every lexer in the cache is the one that the
definition now registered under its key would get anyway. -/

namespace ScopeLexer

open ScopeLexer.Language

/-! ### Catalogues from their definitions -/

namespace Catalogue

theorem register_definitions {c : Catalogue} {d : Definition}
    (h : ∀ e ∈ c.definitions, e.key ≠ d.key) :
    (c.register d).definitions = c.definitions ++ [d] := by
  have hall : c.definitions.filter (·.key ≠ d.key) = c.definitions :=
    List.filter_eq_self.2 fun e he => decide_eq_true (h e he)
  exact congrArg (· ++ [d]) hall

theorem foldl_register {c : Catalogue} {ds : List Definition}
    (h : (c.definitions ++ ds).Pairwise (·.key ≠ ·.key)) :
    (ds.foldl register c).definitions = c.definitions ++ ds := by
  induction ds generalizing c with
  | nil => rw [List.foldl_nil, List.append_nil]
  | cons d ds ih =>
    have hd : (c.register d).definitions = c.definitions ++ [d] :=
      register_definitions fun e he => (List.pairwise_append.1 h).2.2 e he d List.mem_cons_self
    have hrest := ih (c := c.register d) (by rwa [hd, List.append_assoc, List.singleton_append])
    rw [List.foldl_cons, hrest, hd, List.append_assoc, List.singleton_append]

/-- Registering the definitions of a catalogue one by one gives the catalogue again. -/
theorem ofList_definitions (c : Catalogue) : ofList c.definitions = c := by
  have h : (ofList c.definitions).definitions = c.definitions := foldl_register c.distinct
  obtain ⟨ds, hds⟩ := c
  generalize ofList ds = c' at h
  obtain ⟨ds', hds'⟩ := c'
  obtain rfl : ds' = ds := h
  rfl

end Catalogue

namespace Session

/-- What may be asked of a session. -/
inductive Request
  | register (d : Definition)
  | configure (o : Options)
  | find (name : String)
  | lexer (name : String)
  | tokenize (name source : String)
  | parse (name source : String)

/-- What a session answers: a definition that it found, a lexer, chunks, or the chunks that a scan
emitted with the error that cut it short. -/
inductive Answer
  | done
  | found (d : Option Definition)
  | lexer (l : Except Error Lexer)
  | chunks (r : Except Error (List Chunk))
  | events (emitted : List Chunk) (error? : Option Error)

section

variable [Regex.Engine]

/-- The answer to a request, and the session afterwards. -/
def answer (s : Session) : Request → Answer × Session
  | .register d => (.done, s.register d)
  | .configure o => (.done, { s with options := o })
  | .find name => (.found (s.catalogue.find? name), s)
  | .lexer name => ((.lexer (s.lexer name).1), (s.lexer name).2)
  | .tokenize name source => (.chunks (s.tokenize name source).1, (s.tokenize name source).2)
  | .parse name source =>
    (.events (s.parse name source).1.items (s.parse name source).1.error?, (s.parse name source).2)

/-- The session after requests. -/
def after (s : Session) (rs : List Request) : Session := rs.foldl (fun s r => (s.answer r).2) s

/-- Registers no definition whose key has its lexer already. -/
def spares (s : Session) : Request → Bool
  | .register d => !s.cache.contains d.id
  | _ => true

/-- No request in turn registers a definition whose key has its lexer by then. -/
def sparesAll : Session → List Request → Bool
  | _, [] => true
  | s, r :: rs => s.spares r && (s.answer r).2.sparesAll rs

/-- A new session with the same definitions and options. -/
def fresh (s : Session) : Session :=
  { Session.empty.registerAll s.catalogue.definitions with options := s.options }

variable {c : Catalogue} {k k' : Cache} {o : Options} {s s₀ : Session}

omit [Regex.Engine] in
theorem fresh_eq (s : Session) : s.fresh = ⟨s.catalogue, .empty, s.options⟩ := by
  have hall : ∀ (ds : List Definition) (s : Session),
      s.registerAll ds = ⟨ds.foldl Catalogue.register s.catalogue, s.cache, s.options⟩ := by
    intro ds
    induction ds with
    | nil => exact fun s => rfl
    | cons d ds ih => exact fun s => ih (s.register d)
  rw [fresh, hall]
  exact congrArg (Session.mk · .empty s.options) s.catalogue.ofList_definitions

/-- A session runs a language in a whole text as a scan runs one in a part of a match. -/
theorem parse_eq_embedded (s : Session) (name source : String) :
    (s.parse name source).1 = Scan.embedded s.catalogue
      (scan s.catalogue s.options s.options.depthLimit) name (Regex.Text.ofString source) s.cache
        0 := by
  unfold parse lexer Scan.embedded
  cases s.catalogue.find? name with
  | none => rfl
  | some d =>
    simp only
    obtain ⟨e | l, k⟩ := s.cache.fetch d <;> rfl

/-! ### Sessions side by side -/

theorem lexer_congr (hk : c.Agrees k k') (name : String) :
    (lexer ⟨c, k', o⟩ name).1 = (lexer ⟨c, k, o⟩ name).1 := by
  unfold lexer
  cases hd : c.find? name with
  | none => rfl
  | some d => exact hk d (Catalogue.find?_mem hd)

theorem parse_alike (hk : c.Agrees k k') (name source : String) :
    (parse ⟨c, k, o⟩ name source).1.Alike c id (parse ⟨c, k', o⟩ name source).1 := by
  unfold parse lexer
  cases hd : c.find? name with
  | none => exact .failed hk rfl
  | some d =>
    have hmem := Catalogue.find?_mem hd
    have hsame := hk d hmem
    have hafter := hk.fetch hmem
    simp only
    generalize k.fetch d = fetched at hsame hafter
    generalize k'.fetch d = fetched' at hsame hafter
    obtain ⟨e | l, k₁⟩ := fetched
    · obtain ⟨_, k₂⟩ := fetched'
      obtain rfl : _ = Except.error e := hsame
      exact .failed hafter rfl
    · obtain ⟨_, k₂⟩ := fetched'
      obtain rfl : _ = Except.ok l := hsame
      exact scan_alike (.id rfl) o.depthLimit l _ hafter ⟨rfl, .inr rfl⟩

theorem answer_congr (hk : c.Agrees k k') (r : Request) :
    (answer ⟨c, k', o⟩ r).1 = (answer ⟨c, k, o⟩ r).1 := by
  cases r with
  | register d => rfl
  | configure o => rfl
  | find name => rfl
  | lexer name => exact congrArg Answer.lexer (lexer_congr hk name)
  | tokenize name source =>
    have hparse := parse_alike (o := o) hk name source
    have hresult : (parse ⟨c, k', o⟩ name source).1.result =
        (parse ⟨c, k, o⟩ name source).1.result := by
      unfold Run.result
      rw [hparse.error?, hparse.items, Option.map_id, id]
    exact congrArg Answer.chunks hresult
  | parse name source =>
    have hparse := parse_alike (o := o) hk name source
    have herror := hparse.error?
    rw [Option.map_id, id] at herror
    show Answer.events _ _ = Answer.events _ _
    rw [hparse.items, herror]

/-! ### Sessions after requests -/

/-- Every definition gets the lexer, or the fault, that it would get from an empty cache. -/
def Sound (s : Session) : Prop := s.catalogue.Agrees .empty s.cache

theorem Sound.lexer (h : s.Sound) (name : String) : (s.lexer name).2.Sound := by
  unfold Session.lexer
  cases hd : s.catalogue.find? name with
  | none => exact h
  | some d =>
    exact Catalogue.Agrees.trans h (Catalogue.agrees_fetch (Catalogue.find?_mem hd) s.cache)

theorem Sound.parse (h : s.Sound) (name source : String) : (s.parse name source).2.Sound := by
  have hlexer := h.lexer name
  unfold Session.parse
  generalize s.lexer name = made at hlexer
  obtain ⟨e | l, t⟩ := made
  · exact hlexer
  · exact Catalogue.Agrees.trans hlexer (scan_agrees t.catalogue t.options _ l _ t.cache 0)

theorem Sound.register (h : s.Sound) {d : Definition} (hd : s.cache.contains d.id = false) :
    (s.register d).Sound := by
  intro e he
  show (s.cache.fetch e).1 = (Cache.empty.fetch e).1
  rcases List.mem_append.1 he with he | he
  · exact h e (List.mem_filter.1 he).1
  · obtain rfl := List.mem_singleton.1 he
    have hnone : s.cache.get? e.id = none := by simpa [Cache.contains] using hd
    rw [Cache.fetch_fst, Cache.fetch_fst, hnone]
    rfl

theorem Sound.answer (h : s.Sound) {r : Request} (hr : s.spares r = true) :
    (s.answer r).2.Sound := by
  cases r with
  | register d => exact h.register (by simpa [spares] using hr)
  | configure o => exact h
  | find name => exact h
  | lexer name => exact h.lexer name
  | tokenize name source => exact h.parse name source
  | parse name source => exact h.parse name source

theorem Sound.after (h : s.Sound) {rs : List Request} (hrs : s.sparesAll rs = true) :
    (s.after rs).Sound := by
  induction rs generalizing s with
  | nil => exact h
  | cons r rs ih =>
    rw [sparesAll, Bool.and_eq_true] at hrs
    exact ih (h.answer hrs.1) hrs.2

/-- Whatever a session was asked before, and whether that went well or not, it answers every request
as a new session with its definitions and options does. Parsing emits the chunks that tokenizing
returns, or ends with its error. -/
theorem answer_fresh (s₀ : Session) (h₀ : s₀.cache = .empty) (rs : List Request)
    (h : s₀.sparesAll rs = true) :
    (∀ r, ((s₀.after rs).answer r).1 = ((s₀.after rs).fresh.answer r).1) ∧
    ∀ name source, ∃ emitted error?,
      ((s₀.after rs).answer (.parse name source)).1 = .events emitted error? ∧
      ((s₀.after rs).answer (.tokenize name source)).1 =
        .chunks (match error? with
          | none => .ok emitted
          | some e => .error e) := by
  have h₀ : s₀.Sound := by
    rw [Sound, h₀]
    exact .refl _ _
  refine ⟨fun r => ?_, fun name source => ⟨_, _, rfl, ?_⟩⟩
  · rw [fresh_eq]
    exact answer_congr (h₀.after h) r
  · show Answer.chunks ((s₀.after rs).parse name source).1.result = _
    generalize ((s₀.after rs).parse name source).1 = r
    obtain ⟨items, _ | e, k, spent⟩ := r <;> rfl

end

/-- Code in angle brackets. -/
def bracketed : Definition :=
  ⟨"doc", "Doc", .names [], [⟨"<(.*)>", .ofList [(0, .scope "Tag"), (1, .language "Code")]⟩]⟩

/-- The code is in no language, then in one with faults, then in one without under the same key. -/
def mending : List Request :=
  [.register bracketed, .parse "doc" "a<1>",
    .register ⟨"code", "Code", .names [], [⟨"(", .empty⟩]⟩, .tokenize "doc" "a<1>",
    .register ⟨"CODE", "Code", .names [], [⟨"\\d+", .ofList [(0, .scope "Number")]⟩]⟩,
    .configure ⟨1, some 2⟩]

/-- The first two scans fail when the lexer of the outer language is made; the next one succeeds, as
it would at once. -/
theorem answer_fresh_mending : empty.cache = .empty ∧ empty.sparesAll mending = true ∧
    (∀ r, ((empty.after mending).answer r).1 = ((empty.after mending).fresh.answer r).1) ∧
    ((empty.after mending).tokenize "Doc" "a<1>").1.toOption.map (·.map (·.text)) =
      some ["a", "<1>"] ∧
    (empty.after mending).cache.size = 1 := by
  have hspares : empty.sparesAll mending = true := by decide +kernel
  refine ⟨rfl, hspares, (answer_fresh empty rfl mending hspares).1, ?_, ?_⟩
  · decide +kernel
  · decide +kernel

end Session

end ScopeLexer
