import ScopeLexer.Proofs.Scope.Token

/-! What the tokens of any forest say. Siblings may overlap, children may lie outside their parents,
and scopes may be empty or reach past the end of the text. The tokens still lie one behind the other
from the start of the text to its end; and a token has the names that each of its bytes meets on the
way down, where the last sibling that covers the byte leads on. -/

namespace ScopeLexer.Scope

/-! ### Tiles -/

/-- Tokens that take some text each, one behind the other from `start` to `stop`. -/
def Tiles (stop : Nat) : (start : Nat) → List Token → Prop
  | start, [] => start = stop
  | start, t :: ts => t.start = start ∧ t.start < t.stop ∧ Tiles stop t.stop ts

theorem Tiles.le {stop start : Nat} {ts : List Token} (h : Tiles stop start ts) : start ≤ stop := by
  induction ts generalizing start with
  | nil => exact Nat.le_of_eq h
  | cons t ts ih =>
    obtain ⟨rfl, hlt, hts⟩ := h
    exact Nat.le_trans (Nat.le_of_lt hlt) (ih hts)

theorem Tiles.eq_nil_iff {stop start : Nat} {ts : List Token} (h : Tiles stop start ts) :
    ts = [] ↔ start = stop := by
  cases ts with
  | nil => exact ⟨fun _ => h, fun _ => rfl⟩
  | cons t ts =>
    obtain ⟨rfl, hlt, hts⟩ := h
    have hle := hts.le
    exact ⟨fun h => (nomatch h), fun h => by omega⟩

/-- Neighbours in an increasing list are the ends of tiles. -/
theorem tiles_zip (scopes : Nat → Nat → List String) {x : Nat} {xs : List Nat}
    (h : (x :: xs).Pairwise (· < ·)) :
    Tiles ((x :: xs).getLast (List.cons_ne_nil x xs)) x
      ((List.zip (x :: xs) xs).map fun (a, b) => ⟨a, b, scopes a b⟩) := by
  induction xs generalizing x with
  | nil => rfl
  | cons y ys ih =>
    obtain ⟨hx, hys⟩ := List.pairwise_cons.1 h
    exact ⟨rfl, hx y List.mem_cons_self, ih hys⟩

theorem tiles_flatten (roots : List Scope) (length : Nat) :
    Tiles length 0 (flatten roots length) := by
  obtain ⟨xs, hcuts, hlast⟩ := cuts_ends roots length
  have hinc := cuts_increasing roots length
  rw [hcuts] at hinc
  have htiles := tiles_zip
    (fun a b => descend (fun s => s.start ≤ a && b ≤ s.stop) roots) hinc
  rw [hlast] at htiles
  rwa [flatten, hcuts]

/-! ### The way down -/

variable {q r : Scope → Bool} {level : List Scope} {names : List String}

/-- The last scope of a level that satisfies `q`. -/
def IsLast (q : Scope → Bool) (level : List Scope) (s : Scope) : Prop :=
  ∃ before after, level = before ++ s :: after ∧ q s ∧ ∀ t ∈ after, ¬q t

theorem IsLast.unique {s t : Scope} (hs : IsLast q level s) (ht : IsLast q level t) : s = t := by
  have hfind : ∀ {u}, IsLast q level u → level.reverse.find? q = some u := by
    rintro u ⟨before, after, rfl, hu, hafter⟩
    have hnone : after.reverse.find? q = none :=
      List.find?_eq_none.2 fun t ht => hafter t (List.mem_reverse.1 ht)
    rw [List.reverse_append, List.reverse_cons, List.find?_append, List.find?_append, hnone]
    simp [hu]
  exact Option.some.inj ((hfind hs).symm.trans (hfind ht))

/-- The names met on the way down through the last scope of each level that satisfies `q`. -/
inductive Descent (q : Scope → Bool) : List Scope → List String → Prop
  | stop {level : List Scope} (h : ∀ s ∈ level, ¬q s) : Descent q level []
  | down {level : List Scope} {s : Scope} {names : List String} (hs : IsLast q level s)
      (h : Descent q s.children names) : Descent q level (s.name :: names)

theorem IsLast.exists {s : Scope} (h : IsLast q level s) : ∃ t ∈ level, q t := by
  obtain ⟨before, after, rfl, hs, -⟩ := h
  exact ⟨s, by simp, hs⟩

theorem Descent.unique {names' : List String} (h : Descent q level names)
    (h' : Descent q level names') : names = names' := by
  induction h generalizing names' with
  | stop hstop =>
    cases h' with
    | stop => rfl
    | down hs =>
      obtain ⟨t, ht, hq⟩ := hs.exists
      exact absurd hq (hstop t ht)
  | down hs _ ih =>
    cases h' with
    | stop hstop =>
      obtain ⟨t, ht, hq⟩ := hs.exists
      exact absurd hq (hstop t ht)
    | down hs' h' =>
      obtain rfl := hs.unique hs'
      rw [ih h']

theorem Descent.cons {s : Scope} (h : Descent q level names) (hany : level.any q) :
    Descent q (s :: level) names := by
  cases h with
  | stop hstop =>
    obtain ⟨t, ht, hq⟩ := List.any_eq_true.1 hany
    exact absurd hq (hstop t ht)
  | down hs h =>
    obtain ⟨before, after, rfl, hs, hafter⟩ := hs
    exact .down ⟨s :: before, after, rfl, hs, hafter⟩ h

mutual

theorem descent_descend : (level : List Scope) → Descent q level (descend q level)
  | [] => .stop fun _ hs => nomatch hs
  | s :: ss => by
    rw [descend]
    by_cases hany : ss.any q
    · rw [if_pos hany]
      exact (descent_descend ss).cons hany
    · have hnone : ∀ t ∈ ss, ¬q t := fun t ht hq => hany (List.any_eq_true.2 ⟨t, ht, hq⟩)
      rw [if_neg hany]
      by_cases hs : q s
      · obtain ⟨names, hnames, hchildren⟩ := descent_descendFrom s
        rw [if_pos hs, hnames]
        exact .down ⟨[], ss, rfl, hs, hnone⟩ hchildren
      · rw [if_neg hs]
        exact .stop (List.forall_mem_cons.2 ⟨hs, hnone⟩)

theorem descent_descendFrom : (s : Scope) →
    ∃ names, descendFrom q s = s.name :: names ∧ Descent q s.children names
  | ⟨_, _, _, children⟩ => ⟨descend q children, by rw [descendFrom], descent_descend children⟩

end

/-- The way down depends on the scopes that are there. -/
theorem Descent.congr (h : Descent q level names) (hqr : ∀ s ∈ preorderAll level, q s = r s) :
    Descent r level names := by
  induction h with
  | stop hstop =>
    refine .stop fun s hs => ?_
    rw [← hqr s (mem_preorderAll.2 ⟨s, hs, preorder_eq s ▸ List.mem_cons_self⟩)]
    exact hstop s hs
  | @down level s names hs _ ih =>
    obtain ⟨before, after, rfl, hs, hafter⟩ := hs
    have hmem : ∀ t ∈ s :: after, t ∈ preorderAll (before ++ s :: after) := fun t ht =>
      mem_preorderAll.2 ⟨t, List.mem_append_right _ ht, preorder_eq t ▸ List.mem_cons_self⟩
    refine .down ⟨before, after, rfl, ?_, fun t ht => ?_⟩ (ih fun t ht => hqr t ?_)
    · rwa [← hqr s (hmem s List.mem_cons_self)]
    · rw [← hqr t (hmem t (List.mem_cons_of_mem _ ht))]
      exact hafter t ht
    · refine mem_preorderAll.2 ⟨s, by simp, ?_⟩
      rw [preorder_eq]
      exact List.mem_cons_of_mem _ ht

/-- Whatever the forest, its tokens take the text from its start to its end, without any if it is
empty; and the names of a token are those that any of its bytes meets on the way down. -/
theorem flatten_descends (roots : List Scope) (length : Nat) :
    Tiles length 0 (flatten roots length) ∧ (flatten roots length = [] ↔ length = 0) ∧
    ∀ t ∈ flatten roots length, ∀ p, t.start ≤ p → p < t.stop →
      ∀ names, Descent (covers p) roots names ↔ names = t.scopes := by
  have htiles := tiles_flatten roots length
  refine ⟨htiles, htiles.eq_nil_iff.trans eq_comm, fun t ht p htp hpt names => ?_⟩
  have hdescent : Descent (covers p) roots t.scopes := by
    rw [token_scopes ht]
    exact (descent_descend roots).congr fun s hs => token_covered ht htp hpt hs
  exact ⟨fun h => h.unique hdescent, fun h => h ▸ hdescent⟩

/-- Siblings that overlap, one of them empty, with a child outside its parent and the text. -/
def malformed : List Scope :=
  [⟨"Wide", 0, 10, [⟨"Outside", 12, 3, []⟩, ⟨"Inside", 3, 9, []⟩]⟩, ⟨"Empty", 1, 0, []⟩,
    ⟨"Late", 1, 2, []⟩]

theorem flatten_descends_malformed :
    ∃ t ∈ flatten malformed 5, t.start ≤ 2 ∧ 2 < t.stop ∧ Tiles 5 0 (flatten malformed 5) ∧
      ∀ names, Descent (covers 2) malformed names ↔ names = ["Late"] := by
  obtain ⟨htiles, -, hdescent⟩ := flatten_descends malformed 5
  obtain ⟨t, ht, hstart, hstop⟩ := exists_token (by decide : 2 < 5)
  have hdown : Descent (covers 2) malformed ["Late"] := descent_descend malformed
  have hscopes := (hdescent t ht 2 hstart hstop _).1 hdown
  refine ⟨t, ht, hstart, hstop, htiles, fun names => ?_⟩
  rw [hscopes]
  exact hdescent t ht 2 hstart hstop names

end ScopeLexer.Scope
