import Mathlib.Data.Finset.Card
import ScopeLexer.Proofs.Cache
import ScopeLexer.Proofs.Sorting

/-! Catalogues and their registrations. Of all that was registered only the last definition under
each key counts: it is found by its id, and by its aliases where no id is in the way, the smallest
key first. So registrations under different keys may change places, and a definition may be
registered again; nor does the order matter in which a catalogue holds its definitions. -/

namespace ScopeLexer

open ScopeLexer.Language

/-! ### The last registration -/

/-- The definition registered last under a key. -/
def lastUnder (ds : List Definition) (key : String) : Option Definition :=
  ds.reverse.find? (·.key = key)

theorem lastUnder_cons (d : Definition) (ds : List Definition) (key : String) :
    lastUnder (d :: ds) key = (lastUnder ds key).or (if d.key = key then some d else none) := by
  rw [lastUnder, List.reverse_cons, List.find?_append, lastUnder]
  by_cases h : d.key = key <;> simp [h]

theorem lastUnder_append (ds es : List Definition) (key : String) :
    lastUnder (ds ++ es) key = (lastUnder es key).or (lastUnder ds key) := by
  rw [lastUnder, List.reverse_append, List.find?_append]
  rfl

theorem key_of_lastUnder {ds : List Definition} {key : String} {d : Definition}
    (h : lastUnder ds key = some d) : d.key = key := by
  simpa using List.find?_some h

theorem mem_of_lastUnder {ds : List Definition} {key : String} {d : Definition}
    (h : lastUnder ds key = some d) : d ∈ ds :=
  List.mem_reverse.1 (List.mem_of_find?_eq_some h)

theorem lastUnder_isSome {ds : List Definition} {d : Definition} (h : d ∈ ds) :
    (lastUnder ds d.key).isSome := by
  rw [lastUnder, List.find?_isSome]
  exact ⟨d, List.mem_reverse.2 h, by simp⟩

/-- The registrations under one key tell which is the last of them. -/
theorem lastUnder_filter (ds : List Definition) (key : String) :
    lastUnder (ds.filter (·.key = key)) key = lastUnder ds key := by
  simp [lastUnder, ← List.filter_reverse, List.find?_filter]

namespace Catalogue

variable {c c' : Catalogue} {d : Definition} {name : String}

theorem mem_register {e : Definition} :
    e ∈ (c.register d).definitions ↔ e = d ∨ e ∈ c.definitions ∧ e.key ≠ d.key := by
  simp only [register, List.mem_append, List.mem_filter, List.mem_singleton, decide_eq_true_eq]
  exact or_comm

theorem get?_eq_some {key : String} : c.get? key = some d ↔ d ∈ c.definitions ∧ d.key = key := by
  constructor
  · intro h
    exact ⟨List.mem_of_find?_eq_some h, by simpa using List.find?_some h⟩
  · rintro ⟨hd, rfl⟩
    have hsome : (c.get? d.key).isSome := List.find?_isSome.2 ⟨d, hd, by simp⟩
    obtain ⟨e, he⟩ := Option.isSome_iff_exists.1 hsome
    have hkey : e.key = d.key := by simpa using List.find?_some he
    rw [he, eq_of_key (List.mem_of_find?_eq_some he) hd hkey]

theorem get?_register (key : String) :
    (c.register d).get? key = if d.key = key then some d else c.get? key := by
  apply Option.ext
  intro e
  rw [get?_eq_some, mem_register]
  split
  · next h =>
    constructor
    · rintro ⟨rfl | ⟨-, hne⟩, rfl⟩
      · rfl
      · exact absurd h.symm hne
    · rintro ⟨⟩
      exact ⟨.inl rfl, h⟩
  · next h =>
    rw [get?_eq_some]
    constructor
    · rintro ⟨rfl | ⟨he, -⟩, rfl⟩
      · exact absurd rfl h
      · exact ⟨he, rfl⟩
    · rintro ⟨he, rfl⟩
      exact ⟨.inr ⟨he, Ne.symm h⟩, rfl⟩

theorem get?_foldl (ds : List Definition) (c : Catalogue) (key : String) :
    (ds.foldl register c).get? key = (lastUnder ds key).or (c.get? key) := by
  induction ds generalizing c with
  | nil => rfl
  | cons d ds ih =>
    rw [List.foldl_cons, ih, get?_register, lastUnder_cons, Option.or_assoc]
    congr 1
    split <;> rfl

theorem get?_ofList (ds : List Definition) (key : String) :
    (ofList ds).get? key = lastUnder ds key := by
  rw [ofList, get?_foldl]
  exact Option.or_none

theorem mem_ofList {ds : List Definition} :
    d ∈ (ofList ds).definitions ↔ lastUnder ds d.key = some d := by
  rw [← get?_ofList, get?_eq_some]
  exact ⟨fun h => ⟨h, rfl⟩, And.left⟩

/-! ### Aliases -/

theorem mem_answering : d ∈ c.answering name ↔ d ∈ c.definitions ∧ d.answersTo name := by
  rw [answering, List.mem_mergeSort, List.mem_filter]

/-- The first of the definitions that answer to a name is the one with the smallest key. -/
theorem head?_answering : (c.answering name).head? = some d ↔
    (d ∈ c.definitions ∧ d.answersTo name) ∧
      ∀ e ∈ c.definitions, e.answersTo name → d.key ≤ e.key := by
  have hsorted : (c.answering name).Pairwise fun d e => d.key ≤ e.key := sorted_mergeSort _ _
  constructor
  · intro h
    obtain ⟨es, hes⟩ := List.head?_eq_some_iff.1 h
    refine ⟨mem_answering.1 (hes ▸ List.mem_cons_self), fun e he hname => ?_⟩
    rw [hes] at hsorted
    have he : e ∈ c.answering name := mem_answering.2 ⟨he, hname⟩
    rcases List.mem_cons.1 (hes ▸ he) with rfl | he
    · exact String.le_refl _
    · exact (List.pairwise_cons.1 hsorted).1 e he
  · rintro ⟨hd, hmin⟩
    cases hes : c.answering name with
    | nil =>
      have hd := mem_answering.2 hd
      rw [hes] at hd
      cases hd
    | cons e es =>
      obtain ⟨he, hname⟩ := mem_answering.1 (hes ▸ List.mem_cons_self : e ∈ c.answering name)
      have hle : e.key ≤ d.key := by
        rw [hes] at hsorted
        have hd := mem_answering.2 hd
        rcases List.mem_cons.1 (hes ▸ hd) with rfl | hd
        · exact String.le_refl _
        · exact (List.pairwise_cons.1 hsorted).1 d hd
      rw [List.head?_cons, eq_of_key he hd.1 (String.le_antisymm hle (hmin e he hname))]

/-! ### What a catalogue answers -/

/-- Answers to a name, and nothing was registered later under the same key. -/
def Answers (ds : List Definition) (name : String) (d : Definition) : Prop :=
  lastUnder ds d.key = some d ∧ d.answersTo name

/-- What a name finds among registrations: the last definition under its key; failing that, the one
with the smallest key that answers to it. -/
inductive Finds (ds : List Definition) (name : String) : Option Definition → Prop
  | id {d : Definition} (h : lastUnder ds (keyOf name) = some d) : Finds ds name (some d)
  | alias {d : Definition} (h : lastUnder ds (keyOf name) = none) (hd : Answers ds name d)
      (hmin : ∀ e, Answers ds name e → d.key ≤ e.key) : Finds ds name (some d)
  | nothing (h : lastUnder ds (keyOf name) = none) (hnone : ∀ e, ¬Answers ds name e) :
      Finds ds name none

/-- Two catalogues give the same answers. -/
structure Same (c c' : Catalogue) : Prop where
  find? : ∀ name, c.find? name = c'.find? name
  contains : ∀ name, c.contains name = c'.contains name
  size : c.size = c'.size
  ids : c.ids = c'.ids

theorem ids_sorted (c : Catalogue) : c.ids.Pairwise (· ≤ ·) := sorted_mergeSort id _

theorem ids_perm (c : Catalogue) : c.ids.Perm (c.definitions.map (·.id)) := List.mergeSort_perm _ _

/-- The order in which a catalogue holds its definitions cannot be seen. -/
theorem same_of_perm (h : c.definitions.Perm c'.definitions) : Same c c' := by
  have hget : ∀ key, c.get? key = c'.get? key := by
    intro key
    apply Option.ext
    intro d
    rw [get?_eq_some, get?_eq_some, h.mem_iff]
  have hanswering : ∀ name, (c.answering name).head? = (c'.answering name).head? := by
    intro name
    apply Option.ext
    intro d
    simp only [head?_answering, h.mem_iff]
  have hfind : ∀ name, c.find? name = c'.find? name := by
    intro name
    rw [find?, find?, hget, hanswering]
  refine ⟨hfind, fun name => ?_, h.length_eq, ?_⟩
  · rw [contains, contains, hfind]
  · have hids := c.ids_perm.trans ((h.map _).trans c'.ids_perm.symm)
    exact hids.eq_of_pairwise (fun _ _ _ _ => String.le_antisymm) c.ids_sorted c'.ids_sorted

theorem nodup_definitions (c : Catalogue) : c.definitions.Nodup :=
  c.distinct.imp fun h he => h (congrArg Definition.key he)

/-- Registrations with the same last definition under each key give the same answers. -/
theorem same_of_lastUnder {ds ds' : List Definition}
    (h : ∀ key, lastUnder ds key = lastUnder ds' key) : Same (ofList ds) (ofList ds') := by
  apply same_of_perm
  refine (List.perm_ext_iff_of_nodup (nodup_definitions _) (nodup_definitions _)).2 fun d => ?_
  rw [mem_ofList, mem_ofList, h]

theorem find?_iff_finds (ds : List Definition) (name : String) (r : Option Definition) :
    (ofList ds).find? name = r ↔ Finds ds name r := by
  have hanswers : ∀ e, Answers ds name e ↔ e ∈ (ofList ds).definitions ∧ e.answersTo name := by
    intro e
    rw [mem_ofList, Answers]
  rw [find?, get?_ofList]
  cases hid : lastUnder ds (keyOf name) with
  | some d =>
    rw [Option.some_or]
    constructor
    · rintro rfl
      exact .id hid
    · rintro (h | ⟨h, -, -⟩ | ⟨h, -⟩)
      · exact hid.symm.trans h
      · cases hid.symm.trans h
      · cases hid.symm.trans h
  | none =>
    rw [Option.none_or]
    have hleast : ∀ d, ((ofList ds).answering name).head? = some d ↔
        Answers ds name d ∧ ∀ e, Answers ds name e → d.key ≤ e.key := by
      intro d
      simp only [head?_answering, hanswers, and_imp]
    constructor
    · rintro rfl
      cases hhead : ((ofList ds).answering name).head? with
      | some d => exact .alias hid ((hleast d).1 hhead).1 ((hleast d).1 hhead).2
      | none =>
        refine .nothing hid fun e he => ?_
        have he : e ∈ (ofList ds).answering name := mem_answering.2 ((hanswers e).1 he)
        rw [List.head?_eq_none_iff.1 hhead] at he
        cases he
    · rintro (h | ⟨-, hd, hmin⟩ | ⟨-, hnone⟩)
      · cases hid.symm.trans h
      · exact (hleast _).2 ⟨hd, hmin⟩
      · cases hhead : ((ofList ds).answering name).head? with
        | none => rfl
        | some d => exact absurd ((hleast d).1 hhead).1 (hnone d)

/-- A catalogue answers as the last registrations under each key say. -/
structure Reflects (ds : List Definition) (c : Catalogue) : Prop where
  find? : ∀ name r, c.find? name = r ↔ Finds ds name r
  contains : ∀ name, c.contains name ↔ ∃ d, Finds ds name (some d)
  size : c.size = (ds.map (·.key)).toFinset.card
  mem_ids : ∀ id, id ∈ c.ids ↔ ∃ d, lastUnder ds d.key = some d ∧ d.id = id
  length_ids : c.ids.length = c.size
  ids_sorted : c.ids.Pairwise (· ≤ ·)
  /-- No two ids have the same key. -/
  ids_apart : (c.ids.map keyOf).Nodup
  find?_id : ∀ id ∈ c.ids, ∃ d, c.find? id = some d ∧ d.id = id

theorem ofList_reflects (ds : List Definition) : Reflects ds (ofList ds) := by
  have hmem : ∀ id, id ∈ (ofList ds).ids ↔ ∃ d, lastUnder ds d.key = some d ∧ d.id = id := by
    intro id
    rw [(ids_perm _).mem_iff, List.mem_map]
    simp only [mem_ofList]
  have hkeys : ((ofList ds).definitions.map (·.key)).Nodup := List.pairwise_map.2 (ofList ds).distinct
  refine ⟨find?_iff_finds ds, fun name => ?_, ?_, hmem, ?_, ids_sorted _, ?_, fun id hid => ?_⟩
  · rw [contains, Option.isSome_iff_exists]
    simp only [find?_iff_finds]
  · have hsame : (ds.map (·.key)).toFinset = ((ofList ds).definitions.map (·.key)).toFinset := by
      ext key
      simp only [List.mem_toFinset, List.mem_map, mem_ofList]
      constructor
      · rintro ⟨d, hd, rfl⟩
        obtain ⟨e, he⟩ := Option.isSome_iff_exists.1 (lastUnder_isSome hd)
        have hkey := key_of_lastUnder he
        exact ⟨e, hkey ▸ he, hkey⟩
      · rintro ⟨d, hd, rfl⟩
        exact ⟨d, mem_of_lastUnder hd, rfl⟩
    rw [hsame, List.toFinset_card_of_nodup hkeys, List.length_map]
    rfl
  · rw [(ids_perm _).length_eq, List.length_map]
    rfl
  · have hperm := (ids_perm (ofList ds)).map keyOf
    rw [List.map_map] at hperm
    exact hperm.nodup_iff.2 hkeys
  · obtain ⟨d, hd, rfl⟩ := (hmem id).1 hid
    exact ⟨d, (find?_iff_finds ds d.id (some d)).2 (.id hd), rfl⟩

/-- Of the registrations only the last one under each key counts, and the smallest key among those
that answer to a name. The answers stay the same with the definitions in any order, with the
registrations under different keys in any order, and when a definition that is in force is
registered again. -/
theorem ofList_answers (ds : List Definition) :
    Reflects ds (ofList ds) ∧
    (∀ c : Catalogue, c.definitions.Perm (ofList ds).definitions → Same c (ofList ds)) ∧
    (∀ ds', (∀ key, ds'.filter (·.key = key) = ds.filter (·.key = key)) →
      Same (ofList ds') (ofList ds)) ∧
    ∀ before after d, ds = before ++ after → lastUnder before d.key = some d →
      Same (ofList (before ++ d :: after)) (ofList ds) := by
  refine ⟨ofList_reflects ds, fun c => same_of_perm, fun ds' h => ?_, ?_⟩
  · apply same_of_lastUnder
    intro key
    rw [← lastUnder_filter ds', h, lastUnder_filter]
  · rintro before after d rfl hd
    apply same_of_lastUnder
    intro key
    rw [lastUnder_append, lastUnder_append, lastUnder_cons, Option.or_assoc]
    congr 1
    split
    · next hkey => rw [← hkey, hd, Option.or_self]
    · exact Option.none_or

def typed : Definition := ⟨"Typed", "Typed", .names ["js", "es"], []⟩

def script : Definition := ⟨"script", "Script", .names ["old", "es"], []⟩

/-- Takes the place of `script`, and of its aliases. -/
def scriptAgain : Definition := ⟨"SCRIPT", "Script", .predicate (·.length = 2), []⟩

/-- An alias of two, an alias and an id of a definition that was replaced. -/
theorem ofList_answers_scripts :
    let c := ofList [typed, script, scriptAgain]
    c.find? "es" = some scriptAgain ∧ c.find? "old" = none ∧ c.find? "Script" = some scriptAgain ∧
      Same (ofList [script, scriptAgain, typed]) c ∧
      Same (ofList [typed, script, scriptAgain, typed]) c := by
  obtain ⟨hreflects, -, hreorder, hagain⟩ := ofList_answers [typed, script, scriptAgain]
  have htyped : typed.key = "typed" := by decide +kernel
  have hscript : script.key = "script" := by decide +kernel
  have hscriptAgain : scriptAgain.key = "script" := by decide +kernel
  have hlast : ∀ key, lastUnder [typed, script, scriptAgain] key =
      if "script" = key then some scriptAgain else if "typed" = key then some typed else none := by
    intro key
    by_cases h : "script" = key <;> by_cases h' : "typed" = key <;>
      simp [lastUnder, htyped, hscript, hscriptAgain, h, h']
  have hanswers : ∀ name e, Answers [typed, script, scriptAgain] name e →
      e = scriptAgain ∨ e = typed := by
    intro name e he
    have he := he.1
    rw [hlast] at he
    split at he
    · exact .inl (Option.some.inj he).symm
    · split at he
      · exact .inr (Option.some.inj he).symm
      · cases he
  refine ⟨(hreflects.find? _ _).2 (.alias ?_ ⟨?_, rfl⟩ fun e he => ?_),
    (hreflects.find? _ _).2 (.nothing ?_ fun e he => ?_), (hreflects.find? _ _).2 (.id ?_),
    hreorder _ fun key => ?_, hagain _ [] typed (List.append_nil _).symm ?_⟩
  · rw [hlast]
    decide +kernel
  · rw [hlast, hscriptAgain, if_pos rfl]
  · rcases hanswers _ e he with rfl | rfl
    · exact String.le_refl _
    · rw [hscriptAgain, htyped]
      decide
  · rw [hlast]
    decide +kernel
  · rcases hanswers _ e he with rfl | rfl
    · cases he.2
    · cases he.2
  · rw [hlast, if_pos (by decide +kernel)]
  · by_cases h : "typed" = key
    · subst h
      simp [htyped, hscript, hscriptAgain]
    · simp [htyped, h, List.filter_cons]
  · rw [hlast, htyped, if_neg (by decide), if_pos rfl]

end Catalogue

end ScopeLexer
