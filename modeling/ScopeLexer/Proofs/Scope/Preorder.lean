import ScopeLexer.Scope.Walk

/-! Scope trees in preorder. Every scope of a tree stands in its preorder once, with all that is in
it, and a walk visits them in this order. A tree is nested if every scope in it holds its children;
what is asked of a single span besides is left open here. -/

namespace ScopeLexer.Scope

mutual

/-- The scopes of a tree, each before the scopes in it. -/
def preorder : Scope → List Scope
  | ⟨name, start, length, children⟩ => ⟨name, start, length, children⟩ :: preorderAll children

def preorderAll : List Scope → List Scope
  | [] => []
  | s :: ss => s.preorder ++ preorderAll ss

end

theorem preorder_eq (s : Scope) : s.preorder = s :: preorderAll s.children := by
  cases s
  rfl

theorem preorderAll_eq_flatMap (ss : List Scope) : preorderAll ss = ss.flatMap preorder := by
  induction ss with
  | nil => rfl
  | cons s ss ih => rw [preorderAll, ih, List.flatMap_cons]

theorem preorderAll_append (ss ts : List Scope) :
    preorderAll (ss ++ ts) = preorderAll ss ++ preorderAll ts := by
  simp only [preorderAll_eq_flatMap, List.flatMap_append]

theorem mem_preorderAll {t : Scope} {ss : List Scope} :
    t ∈ preorderAll ss ↔ ∃ s ∈ ss, t ∈ s.preorder := by
  rw [preorderAll_eq_flatMap, List.mem_flatMap]

/-! ### Moving -/

@[simp] theorem shift_name (k : Nat) (s : Scope) : (s.shift k).name = s.name := by
  cases s
  rfl

@[simp] theorem shift_start (k : Nat) (s : Scope) : (s.shift k).start = s.start + k := by
  cases s
  rfl

@[simp] theorem shift_length (k : Nat) (s : Scope) : (s.shift k).length = s.length := by
  cases s
  rfl

@[simp] theorem shift_children (k : Nat) (s : Scope) :
    (s.shift k).children = s.children.map (shift k) := by
  cases s
  exact shiftAll_eq_map k _

mutual

theorem preorder_shift (k : Nat) : (s : Scope) → (s.shift k).preorder = s.preorder.map (shift k)
  | ⟨_, _, _, children⟩ => by
    rw [shift, preorder, preorder, preorderAll_shiftAll k children]
    rfl

theorem preorderAll_shiftAll (k : Nat) :
    (ss : List Scope) → preorderAll (shiftAll k ss) = (preorderAll ss).map (shift k)
  | [] => rfl
  | s :: ss => by
    rw [shiftAll, preorderAll, preorderAll, preorder_shift k s, preorderAll_shiftAll k ss,
      List.map_append]

end

theorem preorderAll_map_shift (k : Nat) (ss : List Scope) :
    preorderAll (ss.map (shift k)) = (preorderAll ss).map (shift k) := by
  rw [← shiftAll_eq_map, preorderAll_shiftAll]

/-! ### Walking -/

theorem Walk.scopes_toList (w : Walk) :
    w.toList.map (·.2) = preorderAll (w.pending.map (·.1)) := by
  fun_induction Walk.toList w with
  | case1 w h =>
    unfold next? at h
    split at h
    · next hp => simp [hp, preorderAll]
    · simp at h
  | case2 w x v h ih =>
    unfold next? at h
    split at h
    · simp at h
    · next s depth rest hp =>
      simp only [Option.some.injEq, Prod.mk.injEq] at h
      obtain ⟨rfl, rfl⟩ := h
      rw [List.map_cons, ih, hp]
      simp [preorderAll, preorderAll_append, preorder_eq, Function.comp_def]

/-- A walk visits the scopes of its tree in preorder. -/
theorem scopes_walk (s : Scope) : s.walk.toList.map (·.2) = s.preorder := by
  rw [Walk.scopes_toList]
  simp [walk, preorderAll]

/-! ### Nesting -/

theorem contains_iff {s : Scope} {start length : Nat} :
    s.contains start length ↔ s.start ≤ start ∧ start + length ≤ s.stop := by
  rw [contains, Bool.and_eq_true, decide_eq_true_eq, decide_eq_true_eq]

/-- The spans of all scopes in a tree are as `P` says, and every scope holds its children. -/
def Nested (P : (start length : Nat) → Prop) (s : Scope) : Prop :=
  ∀ t ∈ s.preorder, P t.start t.length ∧ ∀ u ∈ t.children, t.contains u.start u.length

variable {P Q : (start length : Nat) → Prop}

theorem nested_iff {s : Scope} : s.Nested P ↔
    P s.start s.length ∧ ∀ u ∈ s.children, s.contains u.start u.length ∧ u.Nested P := by
  unfold Nested
  rw [preorder_eq, List.forall_mem_cons]
  constructor
  · rintro ⟨⟨hp, hu⟩, ht⟩
    exact ⟨hp, fun u hs => ⟨hu u hs, fun t htu => ht t (mem_preorderAll.2 ⟨u, hs, htu⟩)⟩⟩
  · rintro ⟨hp, hu⟩
    refine ⟨⟨hp, fun u hs => (hu u hs).1⟩, fun t ht => ?_⟩
    obtain ⟨u, hs, htu⟩ := mem_preorderAll.1 ht
    exact (hu u hs).2 t htu

theorem nested_leaf {name : String} {start length : Nat} (h : P start length) :
    (leaf name start length).Nested P := nested_iff.2 ⟨h, fun _ hu => nomatch hu⟩

theorem Nested.span {s : Scope} (h : s.Nested P) : P s.start s.length := (nested_iff.1 h).1

/-- A nested tree gets one more child at its end. -/
theorem Nested.snoc {s u : Scope} (hs : s.Nested P) (hc : s.contains u.start u.length)
    (hu : u.Nested P) : (⟨s.name, s.start, s.length, s.children ++ [u]⟩ : Scope).Nested P := by
  obtain ⟨hp, hcs⟩ := nested_iff.1 hs
  refine nested_iff.2 ⟨hp, fun v hv => ?_⟩
  rcases List.mem_append.1 hv with hv | hv
  · exact hcs v hv
  · obtain rfl := List.mem_singleton.1 hv
    exact ⟨hc, hu⟩

theorem Nested.shift {s : Scope} {k : Nat} (h : s.Nested P)
    (hk : ∀ start length, P start length → Q (start + k) length) : (s.shift k).Nested Q := by
  intro t ht
  rw [preorder_shift] at ht
  obtain ⟨r, hr, rfl⟩ := List.mem_map.1 ht
  obtain ⟨hp, hu⟩ := h r hr
  refine ⟨?_, fun u hs => ?_⟩
  · rw [shift_start, shift_length]
    exact hk _ _ hp
  · rw [shift_children] at hs
    obtain ⟨v, hv, rfl⟩ := List.mem_map.1 hs
    have hc := contains_iff.1 (hu v hv)
    rw [contains_iff, stop, shift_start, shift_start, shift_length, shift_length]
    unfold stop at hc
    omega

end ScopeLexer.Scope
