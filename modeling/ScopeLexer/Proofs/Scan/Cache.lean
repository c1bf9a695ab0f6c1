import ScopeLexer.Proofs.Cache
import ScopeLexer.Proofs.Language.Faults
import ScopeLexer.Scan.Nesting

/-! What a scan does to the cache. However it ends, every definition of the catalogue afterwards gets
the lexer it would have got before, so that the lexer of a name is the same all through a scan. -/

namespace ScopeLexer

open ScopeLexer.Language Regex

variable [Engine]

/-- The lexer that a name has at some state of the cache. -/
def Catalogue.lexer? (c : Catalogue) (k : Cache) (name : String) : Option Lexer :=
  (c.find? name).bind fun d => (k.fetch d).1.toOption

theorem Catalogue.Agrees.lexer? {c : Catalogue} {k k' : Cache} (h : c.Agrees k k') (name : String) :
    c.lexer? k' name = c.lexer? k name := by
  unfold Catalogue.lexer?
  cases hd : c.find? name with
  | none => rfl
  | some d => rw [Option.bind_some, Option.bind_some, h d (Catalogue.find?_mem hd)]

/-- A definition that gets no lexer is to blame. -/
theorem Cache.fetch_blames (k : Cache) (d : Definition) : Blames d.id (k.fetch d).1 := by
  rw [fetch_fst]
  cases k.get? d.id with
  | some l => exact .ok l
  | none => exact Lexer.compile_blames d

variable {c : Catalogue} {α β : Type} {k k₀ : Cache} {o : Options} {count : Nat}

namespace Run

theorem agrees_andThen {r : Run α} {next : Cache → Nat → Run α} (h : c.Agrees k r.cache)
    (hn : c.Agrees r.cache (next r.cache r.spent).cache) :
    c.Agrees k (r.andThen next).cache := by
  unfold andThen
  cases r.error? with
  | some e => exact h
  | none => exact h.trans hn

theorem agrees_counted {next : Run α} (h : c.Agrees k next.cache) :
    c.Agrees k (Run.counted o k count next).cache := by
  unfold counted
  split
  · split
    · exact .refl c k
    · exact h
  · exact h

end Run

namespace Scan

variable {embed : Embed} {l : Lexer} {text : Text}

/-- Running a language in a part of a match does not change the lexers that names have. -/
def KeepsLexers (c : Catalogue) (embed : Embed) : Prop :=
  ∀ name text k count, c.Agrees k (embed name text k count).cache

theorem partScopes_agrees (h : KeepsLexers c embed) (start : Nat) (part : Span text.size)
    (target : Target) : c.Agrees k (partScopes embed text start part target k count).cache := by
  cases target with
  | scope name => exact .refl c k
  | language name => exact h name _ k count

theorem allScopes_agrees (h : KeepsLexers c embed) (start : Nat)
    (parts : List (Span text.size × Target)) :
    c.Agrees k (allScopes embed text start parts k count).cache := by
  induction parts generalizing k count with
  | nil => exact .refl c k
  | cons p parts ih => exact Run.agrees_andThen (partScopes_agrees h start p.1 p.2) ih

theorem take_agrees (h : KeepsLexers c embed) (cursor : Nat) {origin : Nat}
    (m : Match text.size origin) : c.Agrees k (take embed o l text cursor m k count).cache :=
  Run.agrees_counted (allScopes_agrees h m.span.start (l.parts m))

theorem takeAgain_agrees (h : KeepsLexers c embed) {origin : Nat} (m : Match text.size origin)
    (more cursor : Nat) : c.Agrees k (takeAgain embed o l text m more cursor k count).cache := by
  induction more generalizing cursor k count with
  | zero => exact Run.agrees_andThen (take_agrees h cursor m) (.refl c _)
  | succ more ih => exact Run.agrees_andThen (take_agrees h cursor m) (ih m.span.stop)

theorem follow_agrees (h : KeepsLexers c embed) (course : Course text.size) :
    c.Agrees k (follow embed o l text course k count).cache := by
  induction course generalizing k count with
  | finish cursor => exact .refl c k
  | pass m rest ih => exact Run.agrees_andThen (Run.agrees_counted (.refl c k)) ih
  | take cursor m rest ih => exact Run.agrees_andThen (take_agrees h cursor m) ih
  | again cursor m => exact takeAgain_agrees h m _ cursor

theorem keepsLexers_refused (o : Options) : KeepsLexers c (refused o) := fun _ _ k _ => .refl c k

/-- A language is not there, or is at fault, or is scanned with the lexer that its name has. -/
theorem embedded_cases (scan : Lexer → Text → Cache → Nat → Run Chunk) (hk : c.Agrees k₀ k)
    (name : String) (text : Text) (count : Nat) :
    (∃ e k', c.Agrees k₀ k' ∧ e ≠ .stalled ∧ embedded c scan name text k count = .failed e k') ∨
      ∃ l k', c.Agrees k₀ k' ∧ c.lexer? k₀ name = some l ∧
        embedded c scan name text k count = scan l text k' count := by
  have hname := hk.lexer? name
  rw [Catalogue.lexer?] at hname
  unfold embedded
  cases hd : c.find? name with
  | none => exact .inl ⟨.languageNotFound name, k, hk, Error.noConfusion, rfl⟩
  | some d =>
    have hfetch := hk.trans (Catalogue.agrees_fetch (Catalogue.find?_mem hd) k)
    have hblames := k.fetch_blames d
    rw [hd, Option.bind_some] at hname
    simp only
    generalize k.fetch d = fetched at hfetch hname hblames
    obtain ⟨e | l, k'⟩ := fetched
    · refine .inl ⟨e, k', hfetch, fun hstalled => ?_, rfl⟩
      have hgrammar : e.grammar? = some d.id := hblames e rfl
      rw [hstalled] at hgrammar
      cases hgrammar
    · exact .inr ⟨l, k', hfetch, hname.symm, rfl⟩

theorem keepsLexers_embedded {scan : Lexer → Text → Cache → Nat → Run Chunk}
    (h : ∀ l text k count, c.Agrees k (scan l text k count).cache) :
    KeepsLexers c (embedded c scan) := by
  intro name text k count
  rcases embedded_cases scan (.refl c k) name text count with
    ⟨e, k', hk', -, hrun⟩ | ⟨l, k', hk', -, hrun⟩ <;> rw [hrun]
  · exact hk'
  · exact hk'.trans (h l text k' count)

end Scan

theorem scan_agrees (c : Catalogue) (o : Options) (levels : Nat) (l : Lexer) (text : Text)
    (k : Cache) (count : Nat) : c.Agrees k (scan c o levels l text k count).cache := by
  induction levels generalizing l text k count with
  | zero => exact Scan.follow_agrees (Scan.keepsLexers_refused o) _
  | succ levels ih => exact Scan.follow_agrees (Scan.keepsLexers_embedded ih) _

end ScopeLexer
