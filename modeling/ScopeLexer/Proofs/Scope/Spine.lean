import ScopeLexer.Proofs.Scope.Arena
import ScopeLexer.Proofs.Scope.Preorder

/-! Forests built along a spine. The scopes from the cursor up to its root are open, and all others
are closed: nothing joins them any more. A new scope closes the innermost open ones until one
contains it, and is then open itself. The arena holds each of these spines, so both ways to build a
forest give the same one. -/

namespace ScopeLexer.Scope

/-- Closed roots and the open scopes behind them, the innermost first, each with its closed
children. -/
structure Spine where
  closed : List Scope
  opened : List Scope

/-- A scope with one more child behind the others. -/
def snoc (s child : Scope) : Scope := ⟨s.name, s.start, s.length, s.children ++ [child]⟩

theorem size_snoc (s child : Scope) : (s.snoc child).size = s.size + child.size := by
  cases s
  simp only [snoc, size, sizeAll_append, sizeAll]
  omega

namespace Spine

def empty : Spine := ⟨[], []⟩

def size (sp : Spine) : Nat := sizeAll sp.closed + sizeAll sp.opened

/-- Puts a closed scope into the innermost open one. -/
def put : Spine → Scope → Spine
  | ⟨roots, []⟩, s => ⟨roots ++ [s], []⟩
  | ⟨roots, f :: fs⟩, s => ⟨roots, f.snoc s :: fs⟩

/-- Closes open scopes until one satisfies `p`. -/
def close (p : Scope → Bool) (sp : Spine) : Spine :=
  match sp with
  | ⟨roots, []⟩ => ⟨roots, []⟩
  | ⟨roots, f :: fs⟩ => if p f then ⟨roots, f :: fs⟩ else close p (put ⟨roots, fs⟩ f)
termination_by sp.opened.length
decreasing_by cases fs <;> simp [put]

/-- Opens a scope in the innermost open one that contains it. -/
def add (sp : Spine) (s : Scope) : Spine :=
  let kept := sp.close (·.contains s.start s.length)
  ⟨kept.closed, s :: kept.opened⟩

def forest (sp : Spine) : List Scope := (sp.close fun _ => false).closed

@[simp] theorem size_put (sp : Spine) (s : Scope) : (sp.put s).size = sp.size + s.size := by
  obtain ⟨roots, _ | ⟨f, fs⟩⟩ := sp
  · simp [put, size, sizeAll_append, sizeAll]
  · simp only [put, size, sizeAll, size_snoc]
    omega

theorem size_opened_cons (roots : List Scope) (f : Scope) (fs : List Scope) :
    size ⟨roots, f :: fs⟩ = size ⟨roots, fs⟩ + f.size := by
  simp only [size, sizeAll]
  omega

theorem size_close (p : Scope → Bool) (sp : Spine) : (sp.close p).size = sp.size := by
  fun_induction close p sp with
  | case1 roots => rfl
  | case2 roots f fs hp => rfl
  | case3 roots f fs hp ih => rw [ih, size_put, size_opened_cons]

theorem opened_close_all (sp : Spine) : (sp.close fun _ => false).opened = [] := by
  fun_induction close (fun _ => false) sp with
  | case1 roots => rfl
  | case2 roots f fs hp => simp at hp
  | case3 roots f fs hp ih => exact ih

/-- The innermost open scope, if there is one, satisfies the condition for which scopes were
closed. -/
theorem close_opened {p : Scope → Bool} {sp : Spine} {f : Scope} {fs : List Scope}
    (h : (sp.close p).opened = f :: fs) : p f := by
  fun_induction close p sp with
  | case1 roots => simp at h
  | case2 roots g gs hp =>
    obtain ⟨rfl, _⟩ := List.cons.inj h
    exact hp
  | case3 roots g gs hp ih => exact ih h

/-! ### Positions -/

/-- Where the innermost open scope is stored. -/
def top? : Spine → Option Nat
  | ⟨_, []⟩ => none
  | ⟨roots, _ :: fs⟩ => some (size ⟨roots, fs⟩)

@[simp] theorem top?_put (sp : Spine) (s : Scope) : (sp.put s).top? = sp.top? := by
  obtain ⟨roots, _ | ⟨f, fs⟩⟩ := sp <;> rfl

theorem top?_lt {roots fs : List Scope} {p : Nat}
    (h : top? ⟨roots, fs⟩ = some p) : p < size ⟨roots, fs⟩ := by
  cases fs with
  | nil => cases h
  | cons g gs =>
    obtain rfl := Option.some.inj h
    have := g.size_pos
    rw [size_opened_cons]
    omega

/-- An arena holds closed roots and open scopes; `next?` is where the scope in the innermost open
one is stored. -/
def Held (a : Arena) (roots : List Scope) (at' : List Nat) : (next? : Option Nat) →
    (opened : List Scope) → Prop
  | next?, [] => a.HoldsAll none 0 roots ∧ at' = places 0 roots ++ next?.toList
  | next?, f :: fs =>
    let i := size ⟨roots, fs⟩
    a[i]? = some ⟨f.name, f.start, f.length, top? ⟨roots, fs⟩,
        places (i + 1) f.children ++ next?.toList⟩ ∧
      a.HoldsAll (some i) (i + 1) f.children ∧ Held a roots at' (some i) fs

variable {a b : Arena} {roots fs : List Scope} {f : Scope} {at' : List Nat}

theorem Held.agree {next? : Option Nat} (h : Held a roots at' next? fs)
    (hab : Arena.Agree a b 0 (size ⟨roots, fs⟩)) : Held b roots at' next? fs := by
  induction fs generalizing next? with
  | nil =>
    refine ⟨h.1.agree (hab.mono (Nat.le_refl _) ?_), h.2⟩
    simp [size, sizeAll]
  | cons f fs ih =>
    obtain ⟨hn, hc, hr⟩ := h
    have hs := f.size_pos
    have hf : f.size = sizeAll f.children + 1 := by
      cases f
      rfl
    rw [size_opened_cons] at hab
    refine ⟨?_, hc.agree (hab.mono (Nat.zero_le _) ?_), ih hr (hab.mono (Nat.le_refl _) ?_)⟩
    · rw [hab _ (Nat.zero_le _) (by omega)]
      exact hn
    · omega
    · omega

theorem holds_iff {parent : Option Nat} {i : Nat} {s : Scope} : a.Holds parent i s ↔
    a[i]? = some ⟨s.name, s.start, s.length, parent, places (i + 1) s.children⟩ ∧
      a.HoldsAll (some i) (i + 1) s.children := by
  cases s
  rfl

/-- An open scope that is closed is held as a child of the next one. -/
theorem Held.put (h : Held a roots at' none (f :: fs)) :
    Held a (put ⟨roots, fs⟩ f).closed at' none (put ⟨roots, fs⟩ f).opened := by
  obtain ⟨hn, hc, hr⟩ := h
  simp only [Option.toList_none, List.append_nil] at hn
  cases fs with
  | nil =>
    have hi : size ⟨roots, []⟩ = 0 + sizeAll roots := by simp [size, sizeAll]
    obtain ⟨hroots, hat⟩ := hr
    rw [hi] at hn hc hat
    refine ⟨Arena.holdsAll_append.2 ⟨hroots, holds_iff.2 ⟨hn, hc⟩, trivial⟩, ?_⟩
    simp only [Spine.put, places_append, places, hat, Option.toList_some, Option.toList_none,
      List.append_nil]
  | cons g gs =>
    have hi : size ⟨roots, g :: gs⟩ = size ⟨roots, gs⟩ + 1 + sizeAll g.children := by
      rw [size_opened_cons]
      cases g
      simp only [Scope.size]
      omega
    obtain ⟨hg, hgc, hgs⟩ := hr
    rw [hi] at hn hc hg
    refine ⟨?_, Arena.holdsAll_append.2 ⟨hgc, holds_iff.2 ⟨hn, hc⟩, trivial⟩, hgs⟩
    simpa [Spine.put, snoc, places_append, places] using hg

theorem Held.close {sp : Spine} (p : Scope → Bool) (h : Held a sp.closed at' none sp.opened) :
    Held a (sp.close p).closed at' none (sp.close p).opened := by
  fun_induction Spine.close p sp with
  | case1 roots => exact h
  | case2 roots f fs hp => exact h
  | case3 roots f fs hp ih => exact ih h.put

/-- The way up in the arena stops at the scope at which closing stops. -/
theorem Held.holder? {sp : Spine} {start length : Nat}
    (h : Held a sp.closed at' none sp.opened) :
    sp.top?.bind (a.holder? start length) = (sp.close (·.contains start length)).top? := by
  fun_induction Spine.close (·.contains start length) sp with
  | case1 roots => rfl
  | case2 roots f fs hp =>
    rw [top?, Option.bind_some, Arena.holder?, h.1]
    exact if_pos hp
  | case3 roots f fs hp ih =>
    rw [← ih h.put, top?_put, top?, Option.bind_some, Arena.holder?, h.1]
    refine (if_neg hp).trans ?_
    cases ht : top? ⟨roots, fs⟩ with
    | none => rfl
    | some q => exact if_pos (top?_lt ht)

/-- A builder holds a spine in its arena, with the cursor at the innermost open scope. -/
structure Models (sp : Spine) (b : Builder) : Prop where
  size : b.arena.size = sp.size
  cursor : b.cursor = sp.top?
  held : Held b.arena sp.closed b.roots none sp.opened

theorem models_empty : empty.Models .empty := ⟨rfl, rfl, trivial, rfl⟩

/-- A tree inserted behind all that a spine holds is a new open root. -/
theorem models_root {a : Arena} {roots : List Scope} {at' : List Nat}
    (hs : a.size = size ⟨roots, []⟩) (h : Held a roots at' none []) (s : Scope) :
    Models ⟨roots, [s]⟩ ⟨a.insert none s, at' ++ [a.size], some a.size⟩ := by
  have hi := Arena.insert_inserted a none s
  obtain ⟨hroots, hat⟩ := h
  obtain ⟨hn, hc⟩ := holds_iff.1 hi.tree
  refine ⟨?_, congrArg some hs, ?_, ?_, ?_, ?_⟩
  · rw [hi.size, hs, size_opened_cons]
  · simpa [← hs, top?] using hn
  · simpa [← hs] using hc
  · refine hroots.agree fun k _ hk => hi.before k ?_
    simpa [hs, size, sizeAll] using hk
  · simp [hat, hs]

/-- The same inside an open scope. -/
theorem models_inner {a : Arena} {roots gs : List Scope} {g : Scope} {at' : List Nat}
    (hs : a.size = size ⟨roots, g :: gs⟩) (h : Held a roots at' none (g :: gs)) (s : Scope) :
    Models ⟨roots, s :: g :: gs⟩
      ⟨(a.insert (some (size ⟨roots, gs⟩)) s).link (size ⟨roots, gs⟩) a.size, at',
        some a.size⟩ := by
  have hp : size ⟨roots, gs⟩ < a.size := by
    rw [hs]
    exact top?_lt rfl
  have hg := (Arena.insert_inserted a (some (size ⟨roots, gs⟩)) s).grown hp
  obtain ⟨hn, hc⟩ := holds_iff.1 hg.trees.1
  obtain ⟨hgn, hgc, hr⟩ := h
  refine ⟨?_, congrArg some hs, ?_, ?_, ?_, ?_, ?_⟩
  · rw [hg.size, hs, size_opened_cons _ s]
    simp [sizeAll]
  · simpa [← hs, top?] using hn
  · simpa [← hs] using hc
  · rw [hg.node _ hgn]
    simp [places, hs]
  · refine hgc.agree fun k hk hlt => hg.others k ?_ (by omega)
    rw [size_opened_cons] at hs
    cases g
    simp only [Scope.size] at hs hlt
    omega
  · exact hr.agree fun k _ hk => hg.others k (by omega) (by omega)

theorem Models.add {sp : Spine} {b : Builder} (h : sp.Models b) (s : Scope) :
    (sp.add s).Models (b.add s) := by
  have hs := h.size
  have hh := h.held.close (·.contains s.start s.length)
  rw [← size_close (·.contains s.start s.length) sp] at hs
  unfold Builder.add Spine.add
  rw [h.cursor, h.held.holder?]
  generalize sp.close (·.contains s.start s.length) = kept at hs hh ⊢
  obtain ⟨roots, _ | ⟨g, gs⟩⟩ := kept
  · exact models_root hs hh s
  · exact models_inner hs hh s

theorem Models.forest {sp : Spine} {b : Builder} (h : sp.Models b) :
    b.arena.toForest b.roots = sp.forest := by
  have hh := h.held.close fun _ => false
  have hs := size_close (fun _ => false) sp
  rw [opened_close_all] at hh
  rw [Spine.size, opened_close_all, sizeAll, Nat.add_zero] at hs
  obtain ⟨ha, hroots⟩ := hh
  rw [hroots, Option.toList_none, List.append_nil]
  exact Arena.toForest_of_holdsAll ha (h.size.trans hs.symm)

theorem models_foldl {sp : Spine} {b : Builder} (h : sp.Models b) (ss : List Scope) :
    (ss.foldl add sp).Models (ss.foldl Builder.add b) := by
  induction ss generalizing sp b with
  | nil => exact h
  | cons s ss ih => exact ih (h.add s)

end Spine

/-- The arena gives the forest that is built along a spine. -/
theorem forest_eq (ss : List Scope) :
    forest ss = ((byStart ss).foldl Spine.add .empty).forest :=
  (Spine.models_foldl Spine.models_empty _).forest

end ScopeLexer.Scope
