import ScopeLexer.Scope.Forest

/-! What an arena holds. A tree is stored from some position on in preorder, so that its size tells
where the next tree begins. Inserting a tree stores it behind all others; finishing an arena gives
back the trees stored in it. -/

namespace ScopeLexer.Scope

/-- The roots of trees that are stored one behind the other from `i` on. -/
def places : (i : Nat) → List Scope → List Nat
  | _, [] => []
  | i, s :: ss => i :: places (i + s.size) ss

theorem places_append (i : Nat) (ss ts : List Scope) :
    places i (ss ++ ts) = places i ss ++ places (i + sizeAll ss) ts := by
  induction ss generalizing i with
  | nil => simp [places, sizeAll]
  | cons s ss ih => simp [places, sizeAll, ih, Nat.add_assoc]

theorem size_pos (s : Scope) : 0 < s.size := by
  cases s
  exact Nat.succ_pos _

namespace Arena

mutual

/-- A tree is stored from `i` on. -/
def Holds (a : Arena) (parent : Option Nat) (i : Nat) : Scope → Prop
  | ⟨name, start, length, children⟩ =>
    a[i]? = some ⟨name, start, length, parent, places (i + 1) children⟩ ∧
      HoldsAll a (some i) (i + 1) children

def HoldsAll (a : Arena) (parent : Option Nat) : (i : Nat) → List Scope → Prop
  | _, [] => True
  | i, s :: ss => Holds a parent i s ∧ HoldsAll a parent (i + s.size) ss

end

theorem holdsAll_append {a : Arena} {parent : Option Nat} {i : Nat} {ss ts : List Scope} :
    HoldsAll a parent i (ss ++ ts) ↔
      HoldsAll a parent i ss ∧ HoldsAll a parent (i + sizeAll ss) ts := by
  induction ss generalizing i with
  | nil => simp [HoldsAll, sizeAll]
  | cons s ss ih => simp [HoldsAll, sizeAll, ih, Nat.add_assoc, and_assoc]

/-- Two arenas agree from `i` up to `j`. -/
def Agree (a b : Arena) (i j : Nat) : Prop := ∀ k, i ≤ k → k < j → b[k]? = a[k]?

theorem Agree.mono {a b : Arena} {i i' j j' : Nat} (h : Agree a b i j) (hi : i ≤ i')
    (hj : j' ≤ j) : Agree a b i' j' :=
  fun k hik hkj => h k (Nat.le_trans hi hik) (Nat.lt_of_lt_of_le hkj hj)

mutual

theorem Holds.agree {a b : Arena} {parent : Option Nat} {i : Nat} :
    {s : Scope} → a.Holds parent i s → Agree a b i (i + s.size) → b.Holds parent i s
  | ⟨_, _, _, children⟩, h, hab => by
    rw [size] at hab
    refine ⟨?_, HoldsAll.agree h.2 (hab.mono (by omega) (by omega))⟩
    rw [hab i (Nat.le_refl _) (by omega)]
    exact h.1

theorem HoldsAll.agree {a b : Arena} {parent : Option Nat} {i : Nat} :
    {ss : List Scope} → a.HoldsAll parent i ss → Agree a b i (i + sizeAll ss) →
      b.HoldsAll parent i ss
  | [], _, _ => trivial
  | s :: ss, h, hab => by
    rw [sizeAll] at hab
    exact ⟨h.1.agree (hab.mono (Nat.le_refl _) (by omega)),
      h.2.agree (hab.mono (by omega) (by omega))⟩

end

/-! ### Inserting -/

@[simp] theorem size_link (a : Arena) (parent child : Nat) : (a.link parent child).size = a.size := by
  simp [link]

theorem getElem?_link_self {a : Arena} {p : Nat} {n : Node} (h : a[p]? = some n) (child : Nat) :
    (a.link p child)[p]? = some { n with children := n.children ++ [child] } := by
  simp [link, Array.getElem?_modify, h]

theorem getElem?_link_ne {a : Arena} {p j : Nat} (h : j ≠ p) (child : Nat) :
    (a.link p child)[j]? = a[j]? := by
  simp [link, Array.getElem?_modify, Ne.symm h]

/-- What becomes of an arena when trees are inserted under a node of it: the node gets them as its
last children, and no other node changes. -/
structure Grown (a b : Arena) (p : Nat) (ss : List Scope) : Prop where
  size : b.size = a.size + sizeAll ss
  node : ∀ n, a[p]? = some n →
    b[p]? = some { n with children := n.children ++ places a.size ss }
  others : ∀ j, j < a.size → j ≠ p → b[j]? = a[j]?
  trees : b.HoldsAll (some p) a.size ss

/-- What becomes of an arena when a tree is inserted: it stands behind all that was there. -/
structure Inserted (a b : Arena) (parent : Option Nat) (s : Scope) : Prop where
  size : b.size = a.size + s.size
  before : ∀ j, j < a.size → b[j]? = a[j]?
  tree : b.Holds parent a.size s

theorem Inserted.grown {a b : Arena} {p : Nat} {s : Scope} (h : Inserted a b (some p) s)
    (hp : p < a.size) : Grown a (b.link p a.size) p [s] where
  size := by simp [h.size, sizeAll]
  node n hn := by
    rw [← h.before p hp] at hn
    rw [getElem?_link_self hn]
    rfl
  others j hj hne := by rw [getElem?_link_ne hne, h.before j hj]
  trees := by
    refine ⟨h.tree.agree fun k hk _ => ?_, trivial⟩
    rw [getElem?_link_ne (by omega)]

theorem Grown.append {a b c : Arena} {p : Nat} {ss ts : List Scope} (h : Grown a b p ss)
    (hp : p < a.size) (ht : Grown b c p ts) : Grown a c p (ss ++ ts) := by
  have hs := h.size
  refine ⟨?_, fun n hn => ?_, fun j hj hne => ?_, holdsAll_append.2 ⟨?_, ?_⟩⟩
  · rw [ht.size, hs, sizeAll_append, Nat.add_assoc]
  · rw [ht.node _ (h.node n hn), places_append, hs, List.append_assoc]
  · rw [ht.others j (by omega) hne, h.others j hj hne]
  · exact h.trees.agree fun k hk hlt => ht.others k (by omega) (by omega)
  · exact hs ▸ ht.trees

mutual

theorem insert_inserted (a : Arena) (parent : Option Nat) :
    (s : Scope) → Inserted a (a.insert parent s) parent s
  | ⟨name, start, length, children⟩ => by
    have hg := insertAll_grown (a.push ⟨name, start, length, parent, []⟩) a.size
      (by simp) children
    have hn := hg.node ⟨name, start, length, parent, []⟩ (by simp)
    rw [insert]
    refine ⟨?_, fun j hj => ?_, ?_, ?_⟩
    · rw [hg.size, Array.size_push, size]
      omega
    · rw [hg.others j (by simp; omega) (by omega), Array.getElem?_push_lt hj]
      simp [hj]
    · simpa using hn
    · simpa using hg.trees

theorem insertAll_grown (a : Arena) (p : Nat) (hp : p < a.size) :
    (ss : List Scope) → Grown a (insertAll a p ss) p ss
  | [] => ⟨rfl, fun n hn => by simpa [insertAll, places] using hn, fun _ _ _ => rfl, trivial⟩
  | s :: ss => by
    have hs := (insert_inserted a (some p) s).grown hp
    have hp' : p < ((a.insert (some p) s).link p a.size).size := by
      have := hs.size
      omega
    exact hs.append hp (insertAll_grown _ p hp' ss)

end

/-! ### Finishing -/

/-- A store in which the positions from `i` up to `j` are still empty. -/
def Free (done : Array (Option Scope)) (i j : Nat) : Prop := ∀ k, i ≤ k → k < j → done[k]? = some none

theorem Free.mono {done : Array (Option Scope)} {i i' j j' : Nat} (h : Free done i j)
    (hi : i ≤ i') (hj : j' ≤ j) : Free done i' j' :=
  fun k hik hkj => h k (Nat.le_trans hi hik) (Nat.lt_of_lt_of_le hkj hj)

/-- A store with finished trees at their places from `i` on. -/
def put (done : Array (Option Scope)) : (i : Nat) → List Scope → Array (Option Scope)
  | _, [] => done
  | i, s :: ss => (put done (i + s.size) ss).setIfInBounds i (some s)

theorem getElem?_put_lt {done : Array (Option Scope)} {i j : Nat} {ss : List Scope} (h : j < i) :
    (put done i ss)[j]? = done[j]? := by
  induction ss generalizing i with
  | nil => rfl
  | cons s ss ih =>
    rw [put, Array.getElem?_setIfInBounds_ne (by omega), ih (by omega)]

theorem set_none {done : Array (Option Scope)} {i : Nat} (h : done[i]? = some none) :
    done.setIfInBounds i none = done := by
  apply Array.ext_getElem?
  intro j
  by_cases hj : i = j
  · subst hj
    rw [Array.getElem?_setIfInBounds_self, h]
    simp only [ite_eq_left_iff]
    intro hlt
    rw [Array.getElem?_eq_none (by omega)] at h
    simp at h
  · rw [Array.getElem?_setIfInBounds_ne hj]

theorem takeAll_put {done : Array (Option Scope)} {i : Nat} {ss : List Scope}
    (h : Free done i (i + sizeAll ss)) : takeAll (put done i ss) (places i ss) = (ss, done) := by
  induction ss generalizing i with
  | nil => rfl
  | cons s ss ih =>
    have hs := s.size_pos
    rw [sizeAll] at h
    have hi : (put done (i + s.size) ss)[i]? = some none := by
      rw [getElem?_put_lt (by omega), h i (Nat.le_refl _) (by omega)]
    have hlt : i < (put done (i + s.size) ss).size := by
      rw [Array.getElem?_eq_some_iff] at hi
      exact hi.1
    rw [put, places, takeAll, Array.setIfInBounds_setIfInBounds, set_none hi,
      ih (h.mono (by omega) (by omega)), Array.getElem?_setIfInBounds_self_of_lt hlt]
    rfl

mutual

theorem finish_of_holds {a : Arena} {parent : Option Nat} {i : Nat} {done : Array (Option Scope)} :
    {s : Scope} → a.Holds parent i s → Free done i (i + s.size) →
      a.finish (i + s.size) done = a.finish i (done.setIfInBounds i (some s))
  | ⟨_, _, _, children⟩, h, hf => by
    rw [size] at hf ⊢
    have hc : Free done (i + 1) (i + 1 + sizeAll children) := hf.mono (by omega) (by omega)
    have hi : i + (sizeAll children + 1) = i + 1 + sizeAll children := by omega
    rw [hi, finish_of_holdsAll h.2 hc, finish, h.1]
    simp only [takeAll_put hc]

theorem finish_of_holdsAll {a : Arena} {parent : Option Nat} {i : Nat}
    {done : Array (Option Scope)} :
    {ss : List Scope} → a.HoldsAll parent i ss → Free done i (i + sizeAll ss) →
      a.finish (i + sizeAll ss) done = a.finish i (put done i ss)
  | [], _, _ => rfl
  | s :: ss, h, hf => by
    rw [sizeAll] at hf ⊢
    have hss : Free done (i + s.size) (i + s.size + sizeAll ss) := hf.mono (by omega) (by omega)
    have hs : Free (put done (i + s.size) ss) i (i + s.size) := by
      intro k hik hk
      rw [getElem?_put_lt hk, hf k hik (by omega)]
    rw [← Nat.add_assoc, finish_of_holdsAll h.2 hss, finish_of_holds h.1 hs, put]

end

/-- An arena that holds a forest and nothing else gives it back. -/
theorem toForest_of_holdsAll {a : Arena} {ss : List Scope} (h : a.HoldsAll none 0 ss)
    (hs : a.size = sizeAll ss) : a.toForest (places 0 ss) = ss := by
  have hf : Free (Array.replicate a.size none) 0 (0 + sizeAll ss) := by
    intro k _ hk
    simp only [Array.getElem?_replicate]
    rw [if_pos (by omega)]
  have hfin : a.finish a.size (Array.replicate a.size none) =
      put (Array.replicate a.size none) 0 ss := by
    have := finish_of_holdsAll h hf
    rwa [Nat.zero_add, ← hs, finish] at this
  rw [toForest, hfin, takeAll_put hf]

end Arena

end ScopeLexer.Scope
