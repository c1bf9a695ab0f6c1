import ScopeLexer.Proofs.Access
import ScopeLexer.Proofs.Scan.Call

/-! Accesses of a scan. A scan comes to its cache through its calls alone: each of them asks for the
lexer of its language, and the run that it opens makes calls of its own. Put in order, these accesses
lead from the cache at the start of a scan to the one at its end, however it ends. -/

namespace ScopeLexer

open ScopeLexer.Language Regex Access

namespace Scan

variable {c : Catalogue} {o : Options} {l : Lexer} {text : Text} {k : Cache} {count : Nat}
  {embed : Embed} {f : Call → List Access}

variable [Engine]

/-- The access of a call, if there is a language with its name, and those of the run that it
opens. -/
def Call.accesses (c : Catalogue) (inside : Lexer → Text → Cache → (count : Nat) → List Access)
    (q : Call) : List Access :=
  match c.find? q.name with
  | none => []
  | some d =>
    ⟨d, q.cache⟩ ::
      match q.cache.fetch d with
      | (.ok l, k) => inside l q.text k q.count
      | (.error _, _) => []

/-- The accesses of a scan, in order. With no levels left a call is refused before its name is looked
up. -/
def accesses (c : Catalogue) (o : Options) :
    (levels : Nat) → Lexer → Text → Cache → (count : Nat) → List Access
  | 0, _, _, _, _ => []
  | levels + 1, l, text, k, count =>
    (calls (embedding c o (levels + 1)) o l text (l.course text) k count).flatMap
      (Call.accesses c (accesses c o levels))

/-- The accesses of every call lead to the cache that the call leaves. -/
def Linked (f : Call → List Access) (embed : Embed) : Prop :=
  ∀ q, Chained q.cache (f q) (q.run embed).cache

theorem chained_andThen {α : Type} {r : Run α} {next : Cache → Nat → Run α} {qs : List Call}
    {calls : Cache → Nat → List Call} (h : Chained k (qs.flatMap f) r.cache)
    (hn : Chained r.cache ((calls r.cache r.spent).flatMap f) (next r.cache r.spent).cache) :
    Chained k ((qs ++ r.onward calls).flatMap f) (r.andThen next).cache := by
  rw [List.flatMap_append, Chained.append]
  refine ⟨r.cache, h, ?_⟩
  cases hr : r.error? with
  | some e =>
    rw [Run.onward_of_some hr, Run.andThen_of_some hr]
    exact rfl
  | none =>
    rw [Run.onward_of_none hr, Run.andThen_of_none hr]
    exact hn

theorem partScopes_chained (h : Linked f embed) (start : Nat) (part : Span text.size)
    (target : Target) :
    Chained k ((partCalls part target k count).flatMap f)
      (partScopes embed text start part target k count).cache := by
  cases target with
  | scope name => exact rfl
  | language name =>
    rw [partCalls, List.flatMap_singleton]
    exact h ⟨name, text.extract part.start part.stop, k, count⟩

theorem allScopes_chained (h : Linked f embed) (start : Nat)
    (parts : List (Span text.size × Target)) :
    Chained k ((allCalls embed text start parts k count).flatMap f)
      (allScopes embed text start parts k count).cache := by
  induction parts generalizing k count with
  | nil => exact rfl
  | cons p parts ih => exact chained_andThen (partScopes_chained h start p.1 p.2) ih

theorem take_chained (h : Linked f embed) (cursor : Nat) {origin : Nat}
    (m : Match text.size origin) :
    Chained k ((takeCalls embed o l text m k count).flatMap f)
      (take embed o l text cursor m k count).cache := by
  rcases Run.counted_cases (α := Chunk) o k count with hs | ⟨_, _, _, hs⟩
  · simp only [take, takeCalls, hs]
    exact allScopes_chained h m.span.start (l.parts m)
  · simp only [take, takeCalls, hs]
    exact rfl

theorem takeAgain_chained (h : Linked f embed) {origin : Nat} (m : Match text.size origin)
    (more cursor : Nat) :
    Chained k ((takeAgainCalls embed o l text m more cursor k count).flatMap f)
      (takeAgain embed o l text m more cursor k count).cache := by
  induction more generalizing cursor k count with
  | zero =>
    have hlast : (takeAgain embed o l text m 0 cursor k count).cache =
        (take embed o l text cursor m k count).cache := by
      rw [takeAgain, Run.andThen]
      cases (take embed o l text cursor m k count).error? <;> rfl
    rw [hlast]
    exact take_chained h cursor m
  | succ more ih => exact chained_andThen (take_chained h cursor m) (ih m.span.stop)

theorem follow_chained (h : Linked f embed) (course : Course text.size) :
    Chained k ((calls embed o l text course k count).flatMap f)
      (follow embed o l text course k count).cache := by
  induction course generalizing k count with
  | finish cursor => exact rfl
  | pass m rest ih =>
    have hpass : (Run.counted o k count (.done (α := Chunk) [] k)).cache = k := by
      rcases Run.counted_cases (α := Chunk) o k count with hs | ⟨_, _, _, hs⟩ <;> rw [hs] <;> rfl
    show Chained k (([] ++ (Run.counted o k count (.done (α := Chunk) [] k)).onward fun k spent =>
      calls embed o l text rest k (count + spent)).flatMap f) _
    exact chained_andThen hpass ih
  | take cursor m rest ih => exact chained_andThen (take_chained h cursor m) ih
  | again cursor m => exact takeAgain_chained h m _ cursor

theorem linked_embedded {inside : Lexer → Text → Cache → Nat → List Access}
    {scan : Lexer → Text → Cache → Nat → Run Chunk}
    (h : ∀ l text k count, Chained k (inside l text k count) (scan l text k count).cache) :
    Linked (Call.accesses c inside) (embedded c scan) := by
  intro q
  unfold Call.run embedded Call.accesses
  cases c.find? q.name with
  | none => exact rfl
  | some d =>
    refine ⟨rfl, ?_⟩
    unfold Access.after
    simp only
    generalize q.cache.fetch d = fetched
    obtain ⟨e | l, k⟩ := fetched
    · exact rfl
    · exact h l q.text k q.count

end Scan

/-- A scan leaves the cache to which its accesses lead. -/
theorem scan_chained [Engine] (c : Catalogue) (o : Options) (levels : Nat) (l : Lexer) (text : Text)
    (k : Cache) (count : Nat) :
    Chained k (Scan.accesses c o levels l text k count) (scan c o levels l text k count).cache := by
  induction levels generalizing l text k count with
  | zero =>
    have hrefused : Scan.Linked (fun _ => []) (Scan.refused o) := fun _ => rfl
    have hfollow : Chained k
        ((Scan.calls (Scan.refused o) o l text (l.course text) k count).flatMap fun _ => [])
        (scan c o 0 l text k count).cache := Scan.follow_chained hrefused _
    rwa [List.flatMap_eq_nil_iff.2 fun _ _ => rfl] at hfollow
  | succ levels ih => exact Scan.follow_chained (Scan.linked_embedded ih) _

end ScopeLexer
