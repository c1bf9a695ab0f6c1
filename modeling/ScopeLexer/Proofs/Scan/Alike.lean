import ScopeLexer.Proofs.Scan.Cache

/-! Scans side by side. What a scan finds depends on its caches only through the lexers that names
have, on the matches counted before only where matches are limited, and on the depth limit only in
the number that an error carries. Two scans of the same text that differ in nothing else find the
same and count the same, and their caches go on giving the same lexers. -/

namespace ScopeLexer

open ScopeLexer.Language Regex

variable {c : Catalogue} {k k' : Cache} {f : Error → Error} {o o' : Options} {count count' : Nat}
  {α β : Type}

theorem Catalogue.Agrees.symm [Engine] (h : c.Agrees k k') : c.Agrees k' k :=
  fun d hd => (h d hd).symm

theorem Catalogue.Agrees.fetch [Engine] (h : c.Agrees k k') {d : Definition}
    (hd : d ∈ c.definitions) : c.Agrees (k.fetch d).2 (k'.fetch d).2 :=
  (agrees_fetch hd k).symm.trans (h.trans (agrees_fetch hd k'))

/-- The options allow as many matches; and if any are forbidden, as many have been counted. -/
structure InStep (o o' : Options) (count count' : Nat) : Prop where
  limit : o'.matchLimit = o.matchLimit
  count : o.matchLimit = none ∨ count' = count

theorem InStep.add (h : InStep o o' count count') (n : Nat) :
    InStep o o' (count + n) (count' + n) :=
  ⟨h.limit, h.count.imp_right (congrArg (· + n))⟩

/-- What becomes of errors: the depth limit of one scan stands for that of the other. -/
structure Renames (f : Error → Error) (o o' : Options) : Prop where
  deep : f (.nestingTooDeep o.depthLimit) = .nestingTooDeep o'.depthLimit
  other : ∀ e, (∀ n, e ≠ .nestingTooDeep n) → f e = e

theorem Renames.id (h : o'.depthLimit = o.depthLimit) : Renames id o o' :=
  ⟨h ▸ rfl, fun _ _ => rfl⟩

theorem Renames.blames (hf : Renames f o o') {e : Error} {grammar : String}
    (h : e.grammar? = some grammar) : f e = e :=
  hf.other e fun n hn => by simp [hn, Error.grammar?] at h

/-! ### Runs -/

/-- Runs that find and count the same, end with the same error up to `f`, and leave caches with the
same lexers. -/
structure Run.Alike [Engine] (c : Catalogue) (f : Error → Error) (r s : Run α) : Prop where
  items : s.items = r.items
  error? : s.error? = r.error?.map f
  spent : s.spent = r.spent
  cache : c.Agrees r.cache s.cache

namespace Run

variable {r s : Run α}

variable [Engine]

theorem Alike.done (h : c.Agrees k k') (items : List α) :
    (Run.done items k).Alike c f (.done items k') := ⟨rfl, rfl, rfl, h⟩

theorem Alike.failed (h : c.Agrees k k') {e e' : Error} (he : f e = e') :
    (Run.failed e k : Run α).Alike c f (.failed e' k') := ⟨rfl, congrArg some he.symm, rfl, h⟩

theorem Alike.spend (h : r.Alike c f s) : r.spend.Alike c f s.spend :=
  ⟨h.items, h.error?, congrArg (· + 1) h.spent, h.cache⟩

theorem Alike.mapItems (h : r.Alike c f s) (g : List α → List β) :
    (r.mapItems g).Alike c f (s.mapItems g) := ⟨congrArg g h.items, h.error?, h.spent, h.cache⟩

theorem Alike.andThen {next next' : Cache → Nat → Run α} (h : r.Alike c f s)
    (hn : (next r.cache r.spent).Alike c f (next' s.cache r.spent)) :
    (r.andThen next).Alike c f (s.andThen next') := by
  have herror := h.error?
  cases hr : r.error? with
  | some e =>
    rw [hr] at herror
    rw [andThen_of_some hr, andThen_of_some herror]
    exact h
  | none =>
    rw [hr] at herror
    rw [andThen_of_none hr, andThen_of_none herror, h.spent]
    refine ⟨?_, hn.error?, ?_, hn.cache⟩
    · show s.items ++ _ = r.items ++ _
      rw [h.items, hn.items]
    · show r.spent + _ = r.spent + _
      rw [hn.spent]

theorem Alike.counted (hf : Renames f o o') (hk : c.Agrees k k') (hs : InStep o o' count count')
    (h : r.Alike c f s) : (Run.counted o k count r).Alike c f (Run.counted o' k' count' s) := by
  unfold Run.counted
  rw [hs.limit]
  rcases hs.count with hnone | rfl
  · rw [hnone]
    exact h.spend
  · split
    · split
      · next limit _ _ =>
        exact (Alike.failed hk (hf.other (.matchLimitExceeded limit) fun _ hn => nomatch hn)).spend
      · exact h.spend
    · exact h.spend

end Run

/-! ### Scans -/

namespace Scan

variable {embed embed' : Embed} {l : Lexer} {text : Text}

variable [Engine]

/-- Languages that run alike in every part of a match. -/
def EmbedsAlike (c : Catalogue) (f : Error → Error) (o o' : Options) (embed embed' : Embed) :
    Prop :=
  ∀ name text k k' count count', c.Agrees k k' → InStep o o' count count' →
    (embed name text k count).Alike c f (embed' name text k' count')

theorem partScopes_alike (he : EmbedsAlike c f o o' embed embed') (hk : c.Agrees k k')
    (hs : InStep o o' count count') (start : Nat) (part : Span text.size) (target : Target) :
    (partScopes embed text start part target k count).Alike c f
      (partScopes embed' text start part target k' count') := by
  cases target with
  | scope name => exact .done hk _
  | language name =>
    have hrun := he name (text.extract part.start part.stop) k k' count count' hk hs
    exact hrun.mapItems fun ds =>
      (Chunk.scopesFrom 0 ds).map (Scope.shift (text.width start part.start))

theorem allScopes_alike (he : EmbedsAlike c f o o' embed embed') (hk : c.Agrees k k')
    (hs : InStep o o' count count') (start : Nat) (parts : List (Span text.size × Target)) :
    (allScopes embed text start parts k count).Alike c f
      (allScopes embed' text start parts k' count') := by
  induction parts generalizing k k' count count' with
  | nil => exact .done hk _
  | cons p parts ih =>
    have hfirst := partScopes_alike he hk hs start p.1 p.2
    exact hfirst.andThen (ih hfirst.cache (hs.add _))

theorem take_alike (hf : Renames f o o') (he : EmbedsAlike c f o o' embed embed')
    (hk : c.Agrees k k') (hs : InStep o o' count count') (cursor : Nat) {origin : Nat}
    (m : Match text.size origin) :
    (take embed o l text cursor m k count).Alike c f
      (take embed' o' l text cursor m k' count') := by
  have hfound := allScopes_alike he hk (hs.add 1) m.span.start (l.parts m)
  refine .counted hf hk hs ⟨?_, hfound.error?, hfound.spent, hfound.cache⟩
  simp only [hfound.error?, hfound.items, Option.isSome_map]

theorem takeAgain_alike (hf : Renames f o o') (he : EmbedsAlike c f o o' embed embed')
    (hk : c.Agrees k k') (hs : InStep o o' count count') {origin : Nat} (m : Match text.size origin)
    (more cursor : Nat) :
    (takeAgain embed o l text m more cursor k count).Alike c f
      (takeAgain embed' o' l text m more cursor k' count') := by
  induction more generalizing cursor k k' count count' with
  | zero =>
    have hfirst := take_alike (l := l) hf he hk hs cursor m
    exact hfirst.andThen (.failed hfirst.cache (hf.other .stalled fun _ hn => nomatch hn))
  | succ more ih =>
    have hfirst := take_alike (l := l) hf he hk hs cursor m
    exact hfirst.andThen (ih hfirst.cache (hs.add _) m.span.stop)

theorem follow_alike (hf : Renames f o o') (he : EmbedsAlike c f o o' embed embed')
    (hk : c.Agrees k k') (hs : InStep o o' count count') (course : Course text.size) :
    (follow embed o l text course k count).Alike c f
      (follow embed' o' l text course k' count') := by
  induction course generalizing k k' count count' with
  | finish cursor => exact .done hk _
  | pass m rest ih =>
    have hfirst := Run.Alike.counted hf hk hs (.done (α := Chunk) hk [])
    exact hfirst.andThen (ih hfirst.cache (hs.add _))
  | take cursor m rest ih =>
    have hfirst := take_alike (l := l) hf he hk hs cursor m
    exact hfirst.andThen (ih hfirst.cache (hs.add _))
  | again cursor m =>
    -- with a limit both take the match as often, without one once
    have hmore : o'.matchLimit.getD 0 - count' = o.matchLimit.getD 0 - count := by
      rw [hs.limit]
      rcases hs.count with hnone | rfl
      · simp [hnone]
      · rfl
    rw [follow, follow, hmore]
    exact takeAgain_alike hf he hk hs m _ cursor

theorem embedsAlike_refused (hf : Renames f o o') :
    EmbedsAlike c f o o' (refused o) (refused o') :=
  fun _ _ _ _ _ _ hk _ => .failed hk hf.deep

theorem embedsAlike_embedded (hf : Renames f o o')
    {scan scan' : Lexer → Text → Cache → Nat → Run Chunk}
    (h : ∀ l text k k' count count', c.Agrees k k' → InStep o o' count count' →
      (scan l text k count).Alike c f (scan' l text k' count')) :
    EmbedsAlike c f o o' (embedded c scan) (embedded c scan') := by
  intro name text k k' count count' hk hs
  unfold embedded
  cases hd : c.find? name with
  | none => exact .failed hk (hf.other (.languageNotFound name) fun _ hn => nomatch hn)
  | some d =>
    have hmem := Catalogue.find?_mem hd
    have hsame := hk d hmem
    have hafter := hk.fetch hmem
    have hblames := k.fetch_blames d
    simp only
    generalize k.fetch d = fetched at hsame hafter hblames
    generalize k'.fetch d = fetched' at hsame hafter
    obtain ⟨e | l, k₁⟩ := fetched
    · obtain ⟨_, k₂⟩ := fetched'
      obtain rfl : _ = Except.error e := hsame
      exact .failed hafter (hf.blames (hblames e rfl))
    · obtain ⟨_, k₂⟩ := fetched'
      obtain rfl : _ = Except.ok l := hsame
      exact h l text k₁ k₂ count count' hafter hs

end Scan

/-- Scans of the same text with as many levels left are alike. -/
theorem scan_alike [Engine] (hf : Renames f o o') (levels : Nat) (l : Lexer) (text : Text)
    (hk : c.Agrees k k') (hs : InStep o o' count count') :
    (scan c o levels l text k count).Alike c f (scan c o' levels l text k' count') := by
  induction levels generalizing l text k k' count count' with
  | zero => exact Scan.follow_alike hf (Scan.embedsAlike_refused hf) hk hs _
  | succ levels ih =>
    have he := Scan.embedsAlike_embedded hf fun l text _ _ _ _ hk hs => ih l text hk hs
    exact Scan.follow_alike hf he hk hs _

end ScopeLexer
