import ScopeLexer.Proofs.Scope.Row
import ScopeLexer.Proofs.Scope.Token
import ScopeLexer.Proofs.Sorting

/-! What the tokens of captures say. Captures of a match are nested or lie apart, and the outer one
of two that start together comes first. Their forest then tells as much as they do: the token at a
byte has the names of the captures that cover the byte, from the outermost one on. -/

namespace ScopeLexer.Scope

/-! ### Going down -/

/-- The scopes that satisfy `q` lead from a root down: there is no more than one of them among
siblings, and with a scope its parent is one. -/
structure Leads (q : Scope → Bool) (ss : List Scope) : Prop where
  up : ∀ s ∈ preorderAll ss, ∀ u ∈ s.children, q u → q s
  one : ss.Pairwise fun s t => ¬(q s ∧ q t)
  oneInside : ∀ s ∈ preorderAll ss, s.children.Pairwise fun t u => ¬(q t ∧ q u)

variable {q : Scope → Bool}

mutual

theorem root_of_up : (s : Scope) → (∀ r ∈ s.preorder, ∀ u ∈ r.children, q u → q r) →
    ∀ t ∈ s.preorder, q t → q s
  | ⟨_, _, _, children⟩, hup, t, ht, hq => by
    rcases List.mem_cons.1 ht with rfl | ht
    · exact hq
    · obtain ⟨u, hu, hqu⟩ :=
        exists_root_of_up children (fun r hr => hup r (List.mem_cons_of_mem _ hr)) t ht hq
      exact hup _ List.mem_cons_self u hu hqu

theorem exists_root_of_up : (ss : List Scope) →
    (∀ r ∈ preorderAll ss, ∀ u ∈ r.children, q u → q r) →
    ∀ t ∈ preorderAll ss, q t → ∃ s ∈ ss, q s
  | s :: ss, hup, t, ht, hq => by
    rcases List.mem_append.1 ht with ht | ht
    · have hs := root_of_up s (fun r hr => hup r (List.mem_append_left _ hr)) t ht hq
      exact ⟨s, List.mem_cons_self, hs⟩
    · obtain ⟨u, hu, hqu⟩ :=
        exists_root_of_up ss (fun r hr => hup r (List.mem_append_right _ hr)) t ht hq
      exact ⟨u, List.mem_cons_of_mem _ hu, hqu⟩

end

namespace Leads

theorem tail {s : Scope} {ss : List Scope} (h : Leads q (s :: ss)) : Leads q ss where
  up r hr := h.up r (List.mem_append_right _ hr)
  one := h.one.of_cons
  oneInside r hr := h.oneInside r (List.mem_append_right _ hr)

theorem children {s : Scope} {ss : List Scope} (h : Leads q (s :: ss)) : Leads q s.children := by
  have hmem : ∀ r ∈ preorderAll s.children, r ∈ preorderAll (s :: ss) := by
    intro r hr
    refine List.mem_append_left _ ?_
    rw [preorder_eq]
    exact List.mem_cons_of_mem _ hr
  refine ⟨fun r hr => h.up r (hmem r hr), h.oneInside s ?_, fun r hr => h.oneInside r (hmem r hr)⟩
  rw [preorderAll, preorder_eq]
  exact List.mem_cons_self

theorem filter_head {s : Scope} {ss : List Scope} (h : Leads q (s :: ss)) (hs : ¬q s) :
    s.preorder.filter q = [] :=
  List.filter_eq_nil_iff.2 fun t ht hq =>
    hs (root_of_up s (fun r hr => h.up r (List.mem_append_left _ hr)) t ht hq)

theorem filter_tail {s : Scope} {ss : List Scope} (h : Leads q (s :: ss)) (hss : ¬ss.any q) :
    (preorderAll ss).filter q = [] :=
  List.filter_eq_nil_iff.2 fun t ht hq =>
    hss (List.any_eq_true.2 (exists_root_of_up ss h.tail.up t ht hq))

end Leads

mutual

/-- The way down meets all scopes that satisfy `q`. -/
theorem descend_eq : (ss : List Scope) → Leads q ss →
    descend q ss = ((preorderAll ss).filter q).map Scope.name
  | [], _ => rfl
  | s :: ss, h => by
    rw [descend, preorderAll, List.filter_append]
    by_cases hany : ss.any q
    · obtain ⟨t, ht, hqt⟩ := List.any_eq_true.1 hany
      have hs : ¬q s := fun hqs => (List.pairwise_cons.1 h.one).1 t ht ⟨hqs, hqt⟩
      rw [if_pos hany, h.filter_head hs, List.nil_append, descend_eq ss h.tail]
    · rw [if_neg hany, h.filter_tail hany, List.append_nil]
      by_cases hs : q s
      · rw [if_pos hs, descendFrom_eq s hs h.children]
      · rw [if_neg hs, h.filter_head hs, List.map_nil]

theorem descendFrom_eq : (s : Scope) → q s → Leads q s.children →
    descendFrom q s = (s.preorder.filter q).map Scope.name
  | ⟨_, _, _, children⟩, hs, h => by
    rw [descendFrom, preorder, List.filter_cons_of_pos hs, List.map_cons, descend_eq children h]

end

/-- In rows of nested trees, the scopes that cover a stretch of text lead from a root down. -/
theorem Row.leads {P : (start length : Nat) → Prop} {ss : List Scope} {next a b : Nat}
    (h : Row ss next) (hss : ∀ s ∈ ss, s.Nested P) (hab : a < b) :
    Leads (fun s => s.start ≤ a && b ≤ s.stop) ss := by
  have hone : ∀ s t : Scope, s.stop ≤ t.start →
      ¬((decide (s.start ≤ a) && decide (b ≤ s.stop)) = true ∧
        (decide (t.start ≤ a) && decide (b ≤ t.stop)) = true) := by
    intro s t hst
    simp only [Bool.and_eq_true, decide_eq_true_eq]
    omega
  refine ⟨fun s hs u hu => ?_, h.apart.imp (hone _ _), fun s hs => (h.inside s hs).imp (hone _ _)⟩
  obtain ⟨r, hr, hs⟩ := mem_preorderAll.1 hs
  have hcontains := contains_iff.1 ((hss r hr s hs).2 u hu)
  simp only [Bool.and_eq_true, decide_eq_true_eq]
  unfold stop at hcontains ⊢
  omega

/-! ### Captures -/

/-- A flat capture: where it starts, its length, and the name of its scope. -/
abbrev Capture := Nat × Nat × String

namespace Capture

def start (e : Capture) : Nat := e.1

def stop (e : Capture) : Nat := e.1 + e.2.1

def name (e : Capture) : String := e.2.2

def covers (p : Nat) (e : Capture) : Bool := e.start ≤ p && p < e.stop

/-- The other capture lies inside. -/
def Holds (e f : Capture) : Prop := e.start ≤ f.start ∧ f.stop ≤ e.stop

/-- By start; captures that start together keep their order. -/
def byStart (es : List Capture) : List Capture := es.mergeSort fun e f => e.start ≤ f.start

/-- The captures that cover a byte, in the order of their starts. -/
def covering (es : List Capture) (p : Nat) : List Capture := (byStart es).filter (covers p)

def toScope : Capture → Scope
  | (start, length, name) => leaf name start length

/-- Captures of a text of `length` bytes: each takes some of it, any two are nested or apart, and of
those that start together the longer ones come first. -/
structure Laminar (length : Nat) (es : List Capture) : Prop where
  fits : ∀ e ∈ es, e.start < e.stop ∧ e.stop ≤ length
  nested_or_apart : es.Pairwise fun e f =>
    (e.Holds f ∨ f.Holds e) ∨ (e.stop ≤ f.start ∨ f.stop ≤ e.start)
  longer_first : es.Pairwise fun e f => e.start = f.start → f.stop ≤ e.stop

instance (e f : Capture) : Decidable (e.Holds f) :=
  inferInstanceAs (Decidable (e.start ≤ f.start ∧ f.stop ≤ e.stop))

instance (length : Nat) (es : List Capture) : Decidable (Laminar length es) :=
  decidable_of_iff
    ((∀ e ∈ es, e.start < e.stop ∧ e.stop ≤ length) ∧
      es.Pairwise (fun e f => (e.Holds f ∨ f.Holds e) ∨ (e.stop ≤ f.start ∨ f.stop ≤ e.start)) ∧
      es.Pairwise fun e f => e.start = f.start → f.stop ≤ e.stop)
    ⟨fun ⟨hfits, happart, hlonger⟩ => ⟨hfits, happart, hlonger⟩,
      fun h => ⟨h.fits, h.nested_or_apart, h.longer_first⟩⟩

variable {es : List Capture} {length : Nat}

theorem children_toScope (es : List Capture) : ∀ s ∈ es.map toScope, s.children = [] := by
  intro s hs
  obtain ⟨e, -, rfl⟩ := List.mem_map.1 hs
  rfl

theorem byStart_toScope (es : List Capture) :
    Scope.byStart (es.map toScope) = (byStart es).map toScope := by
  refine (List.map_mergeSort (f := toScope) fun e _ f _ => ?_).symm
  rfl

/-- In the order of starts each capture holds the later ones or ends before them. -/
theorem Laminar.clears (h : Laminar length es) :
    (byStart es).Pairwise fun e f => e.Holds f ∨ e.stop ≤ f.start := by
  have hperm : (byStart es).Perm es := List.mergeSort_perm _ _
  have hsorted : (byStart es).Pairwise fun e f => e.start ≤ f.start :=
    sorted_mergeSort Capture.start es
  have hlonger : (byStart es).Pairwise fun e f => e.start = f.start → f.stop ≤ e.stop :=
    pairwise_mergeSort_key h.longer_first
  have happart := (hperm.pairwise_iff fun {e f} hef => by
    rcases hef with (h | h) | (h | h)
    · exact .inl (.inr h)
    · exact .inl (.inl h)
    · exact .inr (.inr h)
    · exact .inr (.inl h)).2 h.nested_or_apart
  have hfits : (byStart es).Pairwise fun _ f => f.start < f.stop :=
    List.pairwise_of_forall_mem_list fun _ _ f hf => (h.fits f (hperm.mem_iff.1 hf)).1
  refine (hsorted.and (hlonger.and (happart.and hfits))).imp fun {e f} hef => ?_
  obtain ⟨hstart, hlong, hcase, hfit⟩ := hef
  unfold Holds at hcase ⊢
  omega

end Capture

open Capture

theorem map_name_filter_covers (p : Nat) (ss : List Scope) :
    (ss.filter (covers p)).map Scope.name =
      ((ss.map label).filter fun x => x.2.1 ≤ p && p < x.2.1 + x.2.2).map (·.1) := by
  rw [List.filter_map, List.map_map]
  rfl

/-- The forest of captures has the scopes of the captures, in the order of their starts. -/
theorem labels_forestOf (es : List Capture) :
    (preorderAll (forestOf es)).map label = ((Capture.byStart es).map toScope).map label := by
  have hforest := labels_forest (es.map toScope)
  rwa [byStart_toScope, labels, labels, preorderAll_leaves (children_toScope _)] at hforest

theorem covering_forestOf (es : List Capture) (p : Nat) :
    ((preorderAll (forestOf es)).filter (covers p)).map Scope.name =
      (covering es p).map Capture.name := by
  rw [map_name_filter_covers, labels_forestOf, ← map_name_filter_covers, List.filter_map,
    List.map_map]
  rfl

/-- Every byte of the text lies in one token, and this token has the names of the captures that cover
the byte, each once, in the order of their starts, which leads from the outermost one inwards. -/
theorem flatten_forestOf (es : List Capture) (length : Nat) (h : Laminar length es) (p : Nat)
    (hp : p < length) :
    ∃ t ∈ flatten (forestOf es) length, t.start ≤ p ∧ p < t.stop ∧
      t.scopes = (covering es p).map Capture.name ∧
      (covering es p).Perm (es.filter (Capture.covers p)) ∧ (covering es p).Pairwise Holds ∧
      ∀ u ∈ flatten (forestOf es) length, u.start ≤ p → p < u.stop → u = t := by
  obtain ⟨t, ht, htp, hpt⟩ := exists_token hp
  have hrow : Row (forestOf es) length := by
    refine row_forest (children_toScope es) ?_ ?_
    · show (Scope.byStart (es.map toScope)).Pairwise Clears
      rw [byStart_toScope, List.pairwise_map]
      refine h.clears.imp fun {e f} hef => hef.imp (fun hholds => contains_iff.2 hholds) id
    · intro s hs
      obtain ⟨e, he, rfl⟩ := List.mem_map.1 hs
      exact (h.fits e he).2
  have hnested : ∀ s ∈ forestOf es, s.Nested fun _ _ => True := by
    refine nested_forest fun s hs => ?_
    obtain ⟨e, -, rfl⟩ := List.mem_map.1 hs
    exact nested_leaf trivial
  have hscopes : t.scopes = (covering es p).map Capture.name := by
    rw [token_scopes ht, descend_eq _ (hrow.leads hnested (token_cuts ht).2.2), ← covering_forestOf,
      List.filter_congr fun s hs => token_covered ht htp hpt hs]
  have hperm : (covering es p).Perm (es.filter (Capture.covers p)) :=
    (List.mergeSort_perm _ _).filter _
  have hholds : (covering es p).Pairwise Holds := by
    refine (h.clears.filter _).imp_of_mem fun {e f} he hf hef => hef.resolve_right ?_
    have he := (List.mem_filter.1 he).2
    have hf := (List.mem_filter.1 hf).2
    simp only [Capture.covers, Bool.and_eq_true, decide_eq_true_eq] at he hf
    omega
  exact ⟨t, ht, htp, hpt, hscopes, hperm, hholds,
    fun u hu hup hpu => token_unique ht hu htp hpt hup hpu⟩

/-- Captures out of order: two with one span, two that touch, and two that start together inside. -/
def tangled : List Capture :=
  [(4, 2, "Call"), (0, 8, "Line"), (0, 8, "Code"), (0, 3, "Name"), (3, 5, "Rest"), (4, 1, "Open"),
    (9, 1, "End")]

theorem flatten_forestOf_tangled : Laminar 12 tangled ∧
    ∃ t ∈ flatten (forestOf tangled) 12, t.start ≤ 4 ∧ 4 < t.stop ∧
      t.scopes = ["Line", "Code", "Rest", "Call", "Open"] := by
  have hlaminar : Laminar 12 tangled := by decide
  have hnames : (covering tangled 4).map Capture.name = ["Line", "Code", "Rest", "Call", "Open"] := by
    simp [covering, Capture.byStart, tangled, List.mergeSort, List.MergeSort.Internal.splitInTwo,
      Capture.start, Capture.stop, Capture.covers, Capture.name]
  obtain ⟨t, ht, hstart, hstop, hscopes, -⟩ := flatten_forestOf tangled 12 hlaminar 4 (by decide)
  exact ⟨hlaminar, t, ht, hstart, hstop, hscopes.trans hnames⟩

end ScopeLexer.Scope
