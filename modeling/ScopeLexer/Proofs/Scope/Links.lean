import ScopeLexer.Proofs.Scope.Spine

/-! Links of an arena. A parent stands before its children, and every node is linked once: under its
parent if it has one, and else as a root. Each step of building a forest keeps this, so nothing that
a forest is read off by is missing or there twice: the way up from a node ends at a root, and going
backwards every child is ready when its parent is. Forms of the steps that fail where a position
lies outside of the arena, or where there is nothing to take, therefore never do. -/

namespace ScopeLexer.Scope

namespace Arena

/-- The parent of the node at `i`, if there is a node. -/
def parentAt (a : Arena) (i : Nat) : Option (Option Nat) := a[i]?.map Node.parent

/-- What is linked under a node, or which nodes are linked as roots. -/
def linked (a : Arena) (roots : List Nat) : Option Nat → List Nat
  | none => roots
  | some p => (a[p]?.map Node.children).getD []

/-- Parents stand before their children, and every node is linked once, where its parent says, but
for the loose ones, which are not linked yet. -/
structure Tied (a : Arena) (roots loose : List Nat) : Prop where
  before : ∀ {i p}, a.parentAt i = some (some p) → p < i
  once : ∀ q i, (a.linked roots q).count i = if a.parentAt i = some q ∧ i ∉ loose then 1 else 0

variable {a : Arena} {roots loose : List Nat} {n : Node} {i p : Nat}

theorem parentAt_eq_none (h : a.size ≤ i) : a.parentAt i = none := by
  rw [parentAt, Array.getElem?_eq_none h]
  rfl

theorem lt_of_parentAt {q : Option Nat} (h : a.parentAt i = some q) : i < a.size := by
  rcases Nat.lt_or_ge i a.size with hi | hi
  · exact hi
  · rw [parentAt_eq_none hi] at h
    cases h

theorem tied_empty : Tied #[] [] [] where
  before h := absurd (lt_of_parentAt h) (Nat.not_lt_zero _)
  once q i := by cases q <;> simp [linked, parentAt]

/-! ### Pushing and linking -/

theorem parentAt_push (a : Arena) (n : Node) (i : Nat) :
    parentAt (a.push n) i = if i = a.size then some n.parent else a.parentAt i := by
  rw [parentAt, Array.getElem?_push]
  split <;> rfl

theorem linked_push (a : Arena) (roots : List Nat) {n : Node} (hn : n.children = [])
    (q : Option Nat) : linked (a.push n) roots q = a.linked roots q := by
  cases q with
  | none => rfl
  | some p =>
    rw [linked, linked, Array.getElem?_push]
    split
    · next hp => simp [hp, hn]
    · rfl

theorem parentAt_link (a : Arena) (p c i : Nat) : (a.link p c).parentAt i = a.parentAt i := by
  rw [parentAt, link, Array.getElem?_modify, parentAt]
  split
  · rw [Option.map_map]
    rfl
  · rfl

theorem linked_link (roots : List Nat) (hp : p < a.size) (c : Nat) (q : Option Nat) :
    (a.link p c).linked roots q =
      if q = some p then a.linked roots q ++ [c] else a.linked roots q := by
  cases q with
  | none => rfl
  | some r =>
    rw [linked, linked, link, Array.getElem?_modify]
    by_cases hr : p = r
    · subst hr
      simp [Array.getElem?_eq_getElem hp]
    · rw [if_neg hr, if_neg fun h => hr (Option.some.inj h).symm]

/-- A new node is loose at first. -/
theorem Tied.push (h : a.Tied roots loose) (hn : n.children = [])
    (hp : ∀ p ∈ n.parent, p < a.size) :
    Tied (a.push n) roots (a.size :: loose) where
  before {i p} hi := by
    rw [parentAt_push] at hi
    split at hi
    · next hsize => exact hsize ▸ hp p (Option.some.inj hi)
    · exact h.before hi
  once q i := by
    rw [linked_push a roots hn, h.once, parentAt_push]
    by_cases hi : i = a.size
    · simp [hi, parentAt_eq_none (Nat.le_refl a.size)]
    · simp [hi]

/-- A loose node is linked where its parent says. -/
theorem Tied.attach {b : Arena} {roots' : List Nat} {q : Option Nat} (h : a.Tied roots (i :: loose))
    (hi : a.parentAt i = some q) (hl : i ∉ loose) (hparent : ∀ j, b.parentAt j = a.parentAt j)
    (hlinked : ∀ r, b.linked roots' r =
      if r = q then a.linked roots r ++ [i] else a.linked roots r) :
    b.Tied roots' loose where
  before hj := h.before (hparent _ ▸ hj)
  once r j := by
    have hcount := h.once r j
    rw [hlinked, hparent]
    by_cases hj : j = i
    · subst hj
      rw [if_neg (fun h => h.2 List.mem_cons_self)] at hcount
      by_cases hr : r = q
      · rw [if_pos hr, List.count_append, hcount, hr, if_pos ⟨hi, hl⟩, List.count_singleton_self]
      · rw [if_neg hr, hcount, if_neg fun h => hr (Option.some.inj (h.1.symm.trans hi))]
    · have hnone : [i].count j = 0 := List.count_eq_zero.2 (by simpa using hj)
      simp only [List.mem_cons, hj, false_or] at hcount
      by_cases hr : r = q
      · rw [if_pos hr, List.count_append, hcount, hnone, Nat.add_zero]
      · rw [if_neg hr, hcount]

theorem Tied.link (h : a.Tied roots (i :: loose)) (hi : a.parentAt i = some (some p))
    (hl : i ∉ loose) : (a.link p i).Tied roots loose :=
  h.attach hi hl (parentAt_link a p i)
    (linked_link roots (Nat.lt_trans (h.before hi) (lt_of_parentAt hi)) i)

theorem Tied.root (h : a.Tied roots (i :: loose)) (hi : a.parentAt i = some none) (hl : i ∉ loose) :
    a.Tied (roots ++ [i]) loose :=
  h.attach hi hl (fun _ => rfl) fun r => by cases r <;> rfl

/-! ### Inserting -/

theorem parentAt_insert (a : Arena) (parent : Option Nat) (s : Scope) :
    (a.insert parent s).parentAt a.size = some parent := by
  rw [parentAt, (Spine.holds_iff.1 (insert_inserted a parent s).tree).1]
  rfl

mutual

theorem Tied.insert {a : Arena} {loose : List Nat} (h : a.Tied roots loose)
    (hl : ∀ i ∈ loose, i < a.size) {parent : Option Nat} (hp : ∀ p ∈ parent, p < a.size) :
    (s : Scope) → (a.insert parent s).Tied roots (a.size :: loose)
  | ⟨name, start, length, children⟩ => by
    rw [Arena.insert]
    refine (h.push (n := ⟨name, start, length, parent, []⟩) rfl hp).insertAll (fun i hi => ?_)
      (by simp) children
    rw [Array.size_push]
    rcases List.mem_cons.1 hi with rfl | hi
    · exact Nat.lt_succ_self _
    · exact Nat.lt_succ_of_lt (hl i hi)

theorem Tied.insertAll {a : Arena} {loose : List Nat} (h : a.Tied roots loose)
    (hl : ∀ i ∈ loose, i < a.size) {p : Nat} (hp : p < a.size) :
    (ss : List Scope) → (a.insertAll p ss).Tied roots loose
  | [] => h
  | s :: ss => by
    have hs := (insert_inserted a (some p) s).size
    have hparent : ∀ q ∈ some p, q < a.size := by simpa using hp
    have hlink := (h.insert hl hparent s).link (parentAt_insert a (some p) s)
      fun hmem => Nat.lt_irrefl _ (hl _ hmem)
    rw [Arena.insertAll]
    refine hlink.insertAll (fun i hi => ?_) ?_ ss
    · have := hl i hi
      rw [size_link]
      omega
    · rw [size_link]
      omega

end

/-! ### The way up -/

/-- The positions from a node up to one without parent, each the parent of the one before. -/
inductive Ancestry (a : Arena) : Nat → List Nat → Prop
  | root {i : Nat} {n : Node} (node : a[i]? = some n) (parent : n.parent = none) : Ancestry a i [i]
  | step {i p : Nat} {n : Node} {path : List Nat} (node : a[i]? = some n)
    (parent : n.parent = some p) (up : Ancestry a p path) : Ancestry a i (i :: path)

/-- The node at `i` contains a span. -/
def containsAt (a : Arena) (start length i : Nat) : Bool := a[i]?.any (·.contains start length)

/-- Goes up like `holder?`, but fails where there is no node, or where a parent does not stand
before its child. -/
def climb? (a : Arena) (start length cursor : Nat) : Option (Option Nat) :=
  match a[cursor]? with
  | none => none
  | some n =>
    if n.contains start length then some (some cursor)
    else
      match n.parent with
      | none => some none
      | some p => if p < cursor then climb? a start length p else none
termination_by cursor

theorem Tied.parent_lt (h : a.Tied roots loose) (hn : a[i]? = some n) (hp : n.parent = some p) :
    p < i := h.before (by rw [parentAt, hn, Option.map_some, hp])

theorem Tied.exists_ancestry (h : a.Tied roots loose) (hi : i < a.size) :
    ∃ path, Ancestry a i path := by
  induction i using Nat.strongRecOn with
  | ind i ih =>
    have hn : a[i]? = some a[i] := Array.getElem?_eq_getElem hi
    cases hp : a[i].parent with
    | none => exact ⟨[i], .root hn hp⟩
    | some p =>
      have hlt := h.parent_lt hn hp
      obtain ⟨path, hpath⟩ := ih p hlt (Nat.lt_trans hlt hi)
      exact ⟨i :: path, .step hn hp hpath⟩

theorem Tied.holder?_node (h : a.Tied roots loose) (hn : a[i]? = some n) (start length : Nat) :
    a.holder? start length i =
      if n.contains start length then some i else n.parent.bind (a.holder? start length) := by
  rw [holder?, hn]
  cases hp : n.parent with
  | none => simp only [hp, Option.bind_none]
  | some p => simp only [hp, Option.bind_some, if_pos (h.parent_lt hn hp)]

theorem Tied.climb?_node (h : a.Tied roots loose) (hn : a[i]? = some n) (start length : Nat) :
    a.climb? start length i =
      if n.contains start length then some (some i)
      else n.parent.elim (some none) (a.climb? start length) := by
  rw [climb?, hn]
  cases hp : n.parent with
  | none => simp only [hp, Option.elim_none]
  | some p => simp only [hp, Option.elim_some, if_pos (h.parent_lt hn hp)]

/-- The holder of a span is the first node that contains it on the way up. -/
theorem Tied.holder?_eq (h : a.Tied roots loose) {path : List Nat} (hpath : Ancestry a i path)
    (start length : Nat) : a.holder? start length i = path.find? (a.containsAt start length) := by
  induction hpath with
  | root hn hp =>
    rw [h.holder?_node hn, hp, List.find?_singleton, containsAt, hn]
    rfl
  | @step i p n path hn hp _ ih =>
    rw [h.holder?_node hn, hp, Option.bind_some, ih, List.find?_cons, containsAt, hn,
      Option.any_some]
    cases n.contains start length <;> rfl

theorem Tied.climb?_eq (h : a.Tied roots loose) {path : List Nat} (hpath : Ancestry a i path)
    (start length : Nat) : a.climb? start length i = some (a.holder? start length i) := by
  induction hpath with
  | root hn hp =>
    rw [h.climb?_node hn, h.holder?_node hn, hp]
    split <;> rfl
  | step hn hp _ ih =>
    rw [h.climb?_node hn, h.holder?_node hn, hp, Option.elim_some, Option.bind_some, ih]
    split <;> rfl

theorem Tied.holder?_lt (h : a.Tied roots loose) {path : List Nat} (hpath : Ancestry a i path)
    {start length : Nat} (hp : a.holder? start length i = some p) : p < a.size := by
  rw [h.holder?_eq hpath] at hp
  have hcontains := List.find?_some hp
  rw [containsAt] at hcontains
  rcases Nat.lt_or_ge p a.size with hlt | hle
  · exact hlt
  · rw [Array.getElem?_eq_none hle] at hcontains
    cases hcontains

/-! ### Adding from a stack -/

/-- Links a child to a node that has to be there. -/
def link? (a : Arena) (parent child : Nat) : Option Arena :=
  if parent < a.size then some (a.link parent child) else none

/-- Adds scopes with their parents from a stack, each with everything in it; those with a parent
from `root` on are linked to it, which has to be there. -/
def insertStack? (root : Nat) (a : Arena) : List (Scope × Option Nat) → Option Arena
  | [] => some a
  | (s, parent) :: stack => do
    let b ← match parent with
      | none => some a
      | some p => if root ≤ p then a.link? p a.size else some a
    insertStack? root (b.push ⟨s.name, s.start, s.length, parent, []⟩)
      (s.children.map (·, some a.size) ++ stack)
termination_by stack => sizeAll (stack.map (·.1))
decreasing_by
  obtain ⟨name, start, length, children⟩ := s
  simp [sizeAll_append, sizeAll, size, Function.comp_def]

theorem link_push (hp : p < a.size) (c : Nat) (n : Node) :
    (a.link p c).push n = link (a.push n) p c := by
  apply Array.ext_getElem?
  intro j
  have hne : p ≠ a.size := Nat.ne_of_lt hp
  simp only [link, Array.getElem?_modify, Array.getElem?_push, Array.size_modify]
  by_cases hj : j = a.size
  · simp [hj, hne]
  · simp [hj]

theorem link_comm {q : Nat} (hpq : p ≠ q) (c d : Nat) :
    (a.link p c).link q d = (a.link q d).link p c := by
  apply Array.ext_getElem?
  intro j
  simp only [link, Array.getElem?_modify]
  by_cases hj : p = j
  · have hq : q ≠ j := fun hq => hpq (hj.trans hq.symm)
    simp [hj, hq]
  · simp [hj]

mutual

/-- A link to an old node may as well be made before a tree is inserted as after it. -/
theorem insert_link {a : Arena} {p : Nat} (hp : p < a.size) (c : Nat) (parent : Option Nat) :
    (s : Scope) → (a.link p c).insert parent s = (a.insert parent s).link p c
  | ⟨name, start, length, children⟩ => by
    rw [insert, insert, link_push hp, size_link]
    exact insertAll_link (by simp; omega) c (Nat.ne_of_lt hp) children

theorem insertAll_link {a : Arena} {p q : Nat} (hp : p < a.size) (c : Nat) (hpq : p ≠ q) :
    (ss : List Scope) → (a.link p c).insertAll q ss = (a.insertAll q ss).link p c
  | [] => rfl
  | s :: ss => by
    have hs := (insert_inserted a (some q) s).size
    rw [insertAll, insertAll, insert_link hp, size_link, link_comm hpq]
    exact insertAll_link (by rw [size_link]; omega) c hpq ss

end

/-- What a scope inserted from a stack leaves: it is linked to its parent unless the parent stands
before `root`. -/
def inserted (root : Nat) (a : Arena) (s : Scope) (parent : Option Nat) : Arena :=
  match parent with
  | none => a.insert parent s
  | some p => if root ≤ p then (a.insert parent s).link p a.size else a.insert parent s

mutual

/-- From a stack the same comes out as by recursion, and no link fails. -/
theorem insertStack?_cons {root : Nat} {a : Arena} (hroot : root ≤ a.size) {parent : Option Nat}
    (hp : ∀ p ∈ parent, p < a.size) (stack : List (Scope × Option Nat)) :
    (s : Scope) → insertStack? root a ((s, parent) :: stack) =
      insertStack? root (inserted root a s parent) stack
  | ⟨name, start, length, children⟩ => by
    have hsize : a.size < (a.push ⟨name, start, length, parent, []⟩).size := by simp
    have hrest := insertStack?_map hroot hsize stack children
    cases parent with
    | none =>
      rw [insertStack?, inserted, insert, ← hrest]
      rfl
    | some p =>
      have hlt : p < a.size := hp p rfl
      rw [insertStack?, inserted]
      by_cases hrp : root ≤ p
      · have hlink : p < (a.push ⟨name, start, length, some p, []⟩).size := by omega
        -- The stack links a node before its subtree goes in, the recursion after.
        simp only [if_pos hrp, link?, if_pos hlt, Option.bind_eq_bind, Option.bind_some, insert]
        rw [link_push hlt, ← insertAll_link hlink a.size (Nat.ne_of_lt hlt)]
        exact insertStack?_map hroot (by rwa [size_link]) stack children
      · simp only [if_neg hrp, Option.bind_eq_bind, Option.bind_some, insert]
        exact hrest

theorem insertStack?_map {root : Nat} {a : Arena} {p : Nat} (hroot : root ≤ p) (hp : p < a.size)
    (stack : List (Scope × Option Nat)) :
    (ss : List Scope) → insertStack? root a (ss.map (·, some p) ++ stack) =
      insertStack? root (a.insertAll p ss) stack
  | [] => rfl
  | s :: ss => by
    have hs := (insert_inserted a (some p) s).size
    have hparent : ∀ q ∈ some p, q < a.size := by simpa using hp
    rw [List.map_cons, List.cons_append, insertStack?_cons (by omega) hparent, inserted,
      if_pos hroot, insertStack?_map hroot (by rw [size_link]; omega) stack ss, insertAll]

end

/-- With nothing else on the stack the tree alone is inserted; its own link is left to be made. -/
theorem insertStack?_eq {parent : Option Nat} (hp : ∀ p ∈ parent, p < a.size) (s : Scope) :
    insertStack? a.size a [(s, parent)] = some (a.insert parent s) := by
  rw [insertStack?_cons (Nat.le_refl _) hp, insertStack?]
  cases parent with
  | none => rfl
  | some p => rw [inserted, if_neg (Nat.not_le_of_lt (hp p rfl))]

/-! ### Taking -/

/-- Takes the finished scopes at some positions out of a store; each has to be there. -/
def takeAll? (done : Array (Option Scope)) : List Nat → Option (List Scope × Array (Option Scope))
  | [] => some ([], done)
  | i :: is => do
    let s ← done[i]?.join
    let (ss, rest) ← takeAll? (done.setIfInBounds i none) is
    return (s :: ss, rest)

/-- Finishes the nodes before position `i`, all of which have to be there, with all their children
ready. -/
def finish? (a : Arena) : Nat → Array (Option Scope) → Option (Array (Option Scope))
  | 0, done => some done
  | i + 1, done => do
    let n ← a[i]?
    let (children, rest) ← takeAll? done n.children
    if i < rest.size then
      finish? a i (rest.setIfInBounds i (some ⟨n.name, n.start, n.length, children⟩))
    else none

/-- The trees under some roots, all of which have to be ready. -/
def toForest? (a : Arena) (roots : List Nat) : Option (List Scope) := do
  let done ← a.finish? a.size (Array.replicate a.size none)
  let (ss, _) ← takeAll? done roots
  return ss

/-- A finished scope is ready at `i`. -/
def Filled (done : Array (Option Scope)) (i : Nat) : Prop := ∃ s, done[i]? = some (some s)

theorem filled_set {done : Array (Option Scope)} (hi : i < done.size) (v : Option Scope) (j : Nat) :
    Filled (done.setIfInBounds i v) j ↔ j = i ∧ v.isSome ∨ j ≠ i ∧ Filled done j := by
  by_cases hj : j = i
  · subst hj
    simp [Filled, Array.getElem?_setIfInBounds_self_of_lt hi, Option.isSome_iff_exists]
  · simp [Filled, Array.getElem?_setIfInBounds_ne (Ne.symm hj), hj]

theorem Filled.lt {done : Array (Option Scope)} (h : Filled done i) : i < done.size := by
  obtain ⟨s, hs⟩ := h
  exact (Array.getElem?_eq_some_iff.1 hs).1

/-- Scopes that are ready are all taken, and nothing else changes. -/
theorem takeAll?_eq {done : Array (Option Scope)} {is : List Nat} (hnodup : is.Nodup)
    (hfilled : ∀ i ∈ is, Filled done i) :
    takeAll? done is = some (takeAll done is) ∧ (takeAll done is).2.size = done.size ∧
      ∀ j, Filled (takeAll done is).2 j ↔ Filled done j ∧ j ∉ is := by
  induction is generalizing done with
  | nil => simp [takeAll?, takeAll]
  | cons i is ih =>
    obtain ⟨hi, hnodup⟩ := List.nodup_cons.1 hnodup
    have hhead := hfilled i List.mem_cons_self
    have hset : ∀ j, Filled (done.setIfInBounds i none) j ↔ Filled done j ∧ j ≠ i := fun j => by
      simp [filled_set hhead.lt, and_comm]
    have hrest : ∀ j ∈ is, Filled (done.setIfInBounds i none) j := fun j hj =>
      (hset j).2 ⟨hfilled j (List.mem_cons_of_mem _ hj), fun h => hi (h ▸ hj)⟩
    obtain ⟨htake, hsize, hleft⟩ := ih hnodup hrest
    refine ⟨?_, ?_, fun j => ?_⟩
    · obtain ⟨s, hs⟩ := hhead
      rw [takeAll?, takeAll, htake, hs]
      rfl
    · rw [takeAll, hsize, Array.size_setIfInBounds]
    · rw [takeAll, hleft, hset, List.mem_cons, not_or, and_assoc]

/-- The nodes from `i` on are finished: those are ready whose parent is not. -/
def Ready (a : Arena) (i : Nat) (done : Array (Option Scope)) : Prop :=
  done.size = a.size ∧ ∀ j, Filled done j ↔
    i ≤ j ∧ j < a.size ∧ ∀ p, a.parentAt j = some (some p) → p < i

theorem Tied.mem_linked (h : a.Tied roots []) {q : Option Nat} {j : Nat} :
    j ∈ a.linked roots q ↔ a.parentAt j = some q := by
  rw [← List.count_pos_iff, h.once]
  by_cases hj : a.parentAt j = some q <;> simp [hj]

theorem Tied.nodup_linked (h : a.Tied roots []) (q : Option Nat) : (a.linked roots q).Nodup := by
  refine List.nodup_iff_count.2 fun j => ?_
  rw [h.once]
  split <;> omega

theorem Tied.finish?_eq (h : a.Tied roots []) {done : Array (Option Scope)} (hi : i ≤ a.size)
    (hd : a.Ready i done) :
    a.finish? i done = some (a.finish i done) ∧ a.Ready 0 (a.finish i done) := by
  induction i generalizing done with
  | zero => exact ⟨rfl, hd⟩
  | succ i ih =>
    have hn : a[i]? = some a[i] := Array.getElem?_eq_getElem hi
    have hlinked : a.linked roots (some i) = a[i].children := by
      rw [linked, hn]
      rfl
    have hmem : ∀ j, j ∈ a[i].children ↔ a.parentAt j = some (some i) := fun j =>
      hlinked ▸ h.mem_linked
    -- Children stand behind their parent, so going backwards they are finished by now, and they are
    -- not taken yet, since no other node has them.
    have hfilled : ∀ j ∈ a[i].children, Filled done j := by
      intro j hj
      have hp := (hmem j).1 hj
      refine (hd.2 j).2 ⟨h.before hp, lt_of_parentAt hp, fun p hp' => ?_⟩
      rw [hp] at hp'
      cases hp'
      exact Nat.lt_succ_self i
    obtain ⟨htake, hsize, hleft⟩ := takeAll?_eq (hlinked ▸ h.nodup_linked (some i)) hfilled
    have hlt : i < (takeAll done a[i].children).2.size := by
      rw [hsize, hd.1]
      exact hi
    rw [finish?, finish, hn]
    simp only [Option.bind_eq_bind, Option.bind_some, htake, if_pos hlt]
    -- Node `i` gets ready as its children stop being so; its parent stands before it.
    refine ih (Nat.le_of_lt hi) ⟨?_, fun j => ?_⟩
    · rw [Array.size_setIfInBounds, hsize, hd.1]
    · rw [filled_set hlt, hleft, hd.2, hmem]
      constructor
      · rintro (⟨rfl, -⟩ | ⟨-, ⟨hij, hj, hparent⟩, hchild⟩)
        · exact ⟨Nat.le_refl _, hi, fun p => h.before⟩
        · refine ⟨Nat.le_of_lt hij, hj, fun p hp => ?_⟩
          have hne : p ≠ i := fun hpi => hchild (hpi ▸ hp)
          have := hparent p hp
          omega
      · rintro ⟨hij, hj, hparent⟩
        by_cases hji : j = i
        · exact .inl ⟨hji, rfl⟩
        · refine .inr ⟨hji, ⟨by omega, hj, fun p hp => Nat.lt_succ_of_lt (hparent p hp)⟩,
            fun hp => ?_⟩
          exact Nat.lt_irrefl _ (hparent i hp)

/-- Reading off the forest of an arena in which every node is linked finds everything it takes. -/
theorem Tied.toForest?_eq (h : a.Tied roots []) :
    a.toForest? roots = some (a.toForest roots) := by
  have hempty : a.Ready a.size (Array.replicate a.size none) := by
    refine ⟨Array.size_replicate, fun j => ⟨fun ⟨s, hs⟩ => ?_, fun h => ?_⟩⟩
    · rw [Array.getElem?_replicate] at hs
      split at hs <;> simp at hs
    · omega
  obtain ⟨hfinish, hready⟩ := h.finish?_eq (Nat.le_refl _) hempty
  have hroots : ∀ j ∈ roots, Filled (a.finish a.size (Array.replicate a.size none)) j := by
    intro j hj
    have hp : a.parentAt j = some none := h.mem_linked.1 hj
    refine (hready.2 j).2 ⟨Nat.zero_le _, lt_of_parentAt hp, fun p hp' => ?_⟩
    rw [hp] at hp'
    cases hp'
  have htake := (takeAll?_eq (h.nodup_linked none) hroots).1
  rw [linked] at htake
  simp only [toForest?, toForest, hfinish, Option.bind_eq_bind, Option.bind_some, htake]
  rfl

end Arena

namespace Builder

/-- Goes up from the cursor, if there is one. -/
def climb? (b : Builder) (start length : Nat) : Option (Option Nat) :=
  match b.cursor with
  | none => some none
  | some i => b.arena.climb? start length i

/-- Adds a scope like `add`, but fails where a position lies outside of the arena. -/
def add? (b : Builder) (s : Scope) : Option Builder := do
  let holder ← b.climb? s.start s.length
  let arena ← Arena.insertStack? b.arena.size b.arena [(s, holder)]
  match holder with
  | none => return ⟨arena, b.roots ++ [b.arena.size], some b.arena.size⟩
  | some p => return ⟨← arena.link? p b.arena.size, b.roots, some b.arena.size⟩

/-- Every node is linked once, and the cursor is at a node unless there is none. -/
structure Linked (b : Builder) : Prop where
  tied : b.arena.Tied b.roots []
  cursor : ∀ i ∈ b.cursor, i < b.arena.size
  unset : b.cursor = none → b.arena.size = 0

theorem linked_empty : empty.Linked := ⟨Arena.tied_empty, nofun, fun _ => rfl⟩

variable {b : Builder}

theorem Linked.holder_lt (h : b.Linked) {start length p : Nat}
    (hp : p ∈ b.cursor.bind (b.arena.holder? start length)) : p < b.arena.size := by
  obtain ⟨i, hi, hp⟩ := Option.bind_eq_some_iff.1 hp
  obtain ⟨path, hpath⟩ := h.tied.exists_ancestry (h.cursor i hi)
  exact h.tied.holder?_lt hpath hp

theorem Linked.add (h : b.Linked) (s : Scope) : (b.add s).Linked := by
  have hlt : ∀ p ∈ b.cursor.bind (b.arena.holder? s.start s.length), p < b.arena.size :=
    fun p => h.holder_lt
  have hinsert := h.tied.insert nofun hlt s
  have hparent := b.arena.parentAt_insert (b.cursor.bind (b.arena.holder? s.start s.length)) s
  have hsize := (Arena.insert_inserted b.arena
    (b.cursor.bind (b.arena.holder? s.start s.length)) s).size
  have hpos := s.size_pos
  unfold Builder.add
  cases hholder : b.cursor.bind (b.arena.holder? s.start s.length) with
  | none =>
    rw [hholder] at hinsert hparent hsize
    refine ⟨hinsert.root hparent (List.not_mem_nil), fun i hi => ?_, nofun⟩
    obtain rfl := Option.some.inj hi
    simp only
    omega
  | some p =>
    rw [hholder] at hinsert hparent hsize
    refine ⟨hinsert.link hparent (List.not_mem_nil), fun i hi => ?_, nofun⟩
    obtain rfl := Option.some.inj hi
    simp only [Arena.size_link]
    omega

theorem Linked.foldl (h : b.Linked) (ss : List Scope) : (ss.foldl Builder.add b).Linked := by
  induction ss generalizing b with
  | nil => exact h
  | cons s ss ih => exact ih (h.add s)

theorem Linked.climb?_eq (h : b.Linked) (start length : Nat) :
    b.climb? start length = some (b.cursor.bind (b.arena.holder? start length)) := by
  unfold climb?
  cases hc : b.cursor with
  | none => rfl
  | some i =>
    obtain ⟨path, hpath⟩ := h.tied.exists_ancestry (h.cursor i hc)
    exact h.tied.climb?_eq hpath start length

/-- Adding a scope never fails for a position outside of the arena. -/
theorem Linked.add?_eq (h : b.Linked) (s : Scope) : b.add? s = some (b.add s) := by
  have hlt : ∀ p ∈ b.cursor.bind (b.arena.holder? s.start s.length), p < b.arena.size :=
    fun p => h.holder_lt
  unfold add? Builder.add
  rw [h.climb?_eq, Option.bind_eq_bind, Option.bind_some, Arena.insertStack?_eq hlt]
  have hsize := (Arena.insert_inserted b.arena
    (b.cursor.bind (b.arena.holder? s.start s.length)) s).size
  cases hholder : b.cursor.bind (b.arena.holder? s.start s.length) with
  | none => rfl
  | some p =>
    have hp : p < (b.arena.insert (some p) s).size := by
      have := hlt p hholder
      rw [hholder] at hsize
      omega
    simp only [Option.bind_eq_bind, Option.bind_some, Arena.link?, if_pos hp]
    rfl

end Builder

/-- However many of the scopes of a forest have been added, its arena is linked, the way up from the
cursor ends at a root and is searched in order, the next scope is added with no position outside of
the arena, and the forest is read off with nothing left out. -/
theorem forests_grow_linked (ss : List Scope) (k : Nat) :
    let b := ((byStart ss).take k).foldl Builder.add .empty
    b.Linked ∧
      (∀ i ∈ b.cursor, ∃ path, b.arena.Ancestry i path ∧ ∀ start length,
        b.arena.holder? start length i = path.find? (b.arena.containsAt start length)) ∧
      (∀ s, b.add? s = some (b.add s)) ∧
      b.arena.toForest? b.roots = some (b.arena.toForest b.roots) := by
  intro b
  have h : b.Linked := Builder.linked_empty.foldl _
  refine ⟨h, fun i hi => ?_, h.add?_eq, h.tied.toForest?_eq⟩
  obtain ⟨path, hpath⟩ := h.tied.exists_ancestry (h.cursor i hi)
  exact ⟨path, hpath, h.tied.holder?_eq hpath⟩

/-- A scope that already has a child goes under the one before it; the way up from it has both. -/
theorem forests_grow_linked_nested :
    let ss := [leaf "a" 0 4, ⟨"b", 1, 2, [leaf "c" 1 1]⟩]
    let b := ((byStart ss).take 2).foldl Builder.add .empty
    b.cursor = some 1 ∧ b.arena.size = 3 ∧ b.Linked ∧
      ∃ path, b.arena.Ancestry 1 path ∧
        b.arena.holder? 3 1 1 = path.find? (b.arena.containsAt 3 1) := by
  intro ss b
  have hsorted : byStart ss = ss := by simp [ss, byStart, List.mergeSort, leaf]
  have hb : b = ss.foldl Builder.add .empty := by simp only [b, hsorted]; rfl
  have hcursor : b.cursor = some 1 := by rw [hb]; cbv
  have hsize : b.arena.size = 3 := by rw [hb]; cbv
  obtain ⟨hlinked, hway, -, -⟩ := forests_grow_linked ss 2
  obtain ⟨path, hpath, hholder⟩ := hway 1 hcursor
  exact ⟨hcursor, hsize, hlinked, path, hpath, hholder 3 1⟩

end ScopeLexer.Scope
