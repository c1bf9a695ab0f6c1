import Mathlib.Data.Set.Finite.Lemmas
import ScopeLexer.Proofs.Catalogue
import ScopeLexer.Proofs.Unicode.Lowercase

/-! Names in other case. Ids are compared in lowercase, aliases without the case of ASCII letters
only. So a name finds the same in any ASCII case, but names with one lowercase form find the same
only where the first definition with an alias of that form answers to all of them. In ASCII without
the letter k it always does. -/

namespace ScopeLexer

open ScopeLexer.Language ScopeLexer.Unicode

namespace Language

/-- The names listed as aliases. -/
def Aliases.listed : Aliases → List String
  | names ns => ns
  | predicate _ => []

/-- Some listed alias has the key. -/
def Definition.Called (d : Definition) (key : String) : Prop :=
  ∃ n ∈ d.aliases.listed, keyOf n = key

/-- Has a list of aliases, rather than a predicate. -/
def Definition.ListsAliases (d : Definition) : Prop := d.aliases = .names d.aliases.listed

theorem Definition.ListsAliases.answersTo {d : Definition} (h : d.ListsAliases) {name : String} :
    d.answersTo name ↔ ∃ n ∈ d.aliases.listed, eqIgnoringAsciiCase n name := by
  rw [Definition.answersTo, h, Aliases.accepts, List.any_eq_true]
  rfl

theorem Definition.ListsAliases.called {d : Definition} (h : d.ListsAliases) {name : String}
    (hname : d.answersTo name) : d.Called (keyOf name) := by
  obtain ⟨n, hn, heq⟩ := h.answersTo.1 hname
  exact ⟨n, hn, lowercase_eq_of_eqIgnoringAsciiCase heq⟩

end Language

namespace Catalogue

/-- Of the definitions with an alias of the key, the one with the smallest key of its own. -/
structure FirstCalled (c : Catalogue) (key : String) (d : Definition) : Prop where
  mem : d ∈ c.definitions
  called : d.Called key
  le : ∀ e ∈ c.definitions, e.Called key → d.key ≤ e.key

/-- All names with the key find the same. -/
def Caseless (c : Catalogue) (key : String) : Prop :=
  ∀ x y, keyOf x = key → keyOf y = key → c.find? x = c.find? y

variable {c : Catalogue} {d : Definition} {key name : String}

theorem exists_firstCalled (hd : d ∈ c.definitions) (h : d.Called key) :
    ∃ e, c.FirstCalled key e := by
  obtain ⟨e, ⟨he, hcalled⟩, hle⟩ :=
    Set.exists_min_image {e | e ∈ c.definitions ∧ e.Called key} (·.key)
      (c.definitions.finite_toSet.subset fun _ he => he.1) ⟨d, hd, h⟩
  exact ⟨e, he, hcalled, fun f hf hcalled => hle f ⟨hf, hcalled⟩⟩

section ListsAliases

variable (h : ∀ d ∈ c.definitions, d.ListsAliases)

include h

theorem find?_of_eqIgnoringAsciiCase {x y : String} (hxy : eqIgnoringAsciiCase x y) :
    c.find? x = c.find? y := by
  have hkey : keyOf x = keyOf y := lowercase_eq_of_eqIgnoringAsciiCase hxy
  have hanswers : ∀ d ∈ c.definitions, d.answersTo x = d.answersTo y := by
    intro d hd
    rw [Bool.eq_iff_iff, (h d hd).answersTo, (h d hd).answersTo]
    simp only [eqIgnoringAsciiCase_iff, eqIgnoringAsciiCase_iff.1 hxy]
  rw [find?, find?, hkey, answering, answering, List.filter_congr hanswers]

/-- Where no id has the key of a name, the first definition that has it as an alias is found exactly
if it answers to the name. -/
theorem FirstCalled.find?_eq_some (hd : c.FirstCalled (keyOf name) d)
    (hget : c.get? (keyOf name) = none) : c.find? name = some d ↔ d.answersTo name := by
  rw [find?, hget, Option.none_or, head?_answering]
  exact ⟨fun hfound => hfound.1.2,
    fun hname => ⟨⟨hd.mem, hname⟩, fun e he hname => hd.le e he ((h e he).called hname)⟩⟩

theorem find?_eq_some_iff_firstCalled (hget : c.get? (keyOf name) = none)
    (hanswers : ∀ d, c.FirstCalled (keyOf name) d → d.answersTo name) :
    c.find? name = some d ↔ c.FirstCalled (keyOf name) d := by
  constructor
  · intro hfind
    have hname : d ∈ c.definitions ∧ d.answersTo name := by
      rw [find?, hget, Option.none_or] at hfind
      exact (head?_answering.1 hfind).1
    obtain ⟨e, he⟩ := exists_firstCalled hname.1 ((h d hname.1).called hname.2)
    obtain rfl := Option.some.inj (hfind.symm.trans ((he.find?_eq_some h hget).2 (hanswers e he)))
    exact he
  · exact fun hd => (hd.find?_eq_some h hget).2 (hanswers d hd)

theorem caseless_iff : c.Caseless key ↔ (c.get? key = none → ∀ d, c.FirstCalled key d →
    ∀ name, keyOf name = key → d.answersTo name) := by
  constructor
  · rintro hcase hget d hd name rfl
    obtain ⟨n, hn, hkey⟩ := hd.called
    have hanswers : d.answersTo n := (h d hd.mem).answersTo.2 ⟨n, hn, eqIgnoringAsciiCase_iff.2 rfl⟩
    rw [← hd.find?_eq_some h hget, ← hcase n name hkey rfl]
    rw [← hkey] at hd hget
    exact (hd.find?_eq_some h hget).2 hanswers
  · intro hall x y hx hy
    cases hget : c.get? key with
    | some d => rw [find?, find?, hx, hy, hget, Option.some_or, Option.some_or]
    | none =>
      apply Option.ext
      intro d
      have hanswers := hall hget
      rw [find?_eq_some_iff_firstCalled h (hx ▸ hget) fun e he => hanswers e (hx ▸ he) x hx,
        find?_eq_some_iff_firstCalled h (hy ▸ hget) fun e he => hanswers e (hy ▸ he) y hy, hx, hy]

theorem caseless_of_ascii (hkey : ∀ a ∈ key.toList, a.toNat < 128 ∧ a ≠ 'k') :
    c.Caseless key := by
  refine (caseless_iff h).2 fun _ d hd name hname => ?_
  obtain ⟨n, hn, rfl⟩ := hd.called
  exact (h d hd.mem).answersTo.2 ⟨n, hn, eqIgnoringAsciiCase_of_lowercase hname.symm hkey⟩

end ListsAliases

/-- Where all aliases are listed, a name finds the same in any ASCII case. Names with the same key
find the same if and only if an id has the key, or the first definition with an alias of that key
answers to all of them; so they do if the key is in ASCII and without the letter k. -/
theorem lookup_caseless (h : ∀ d ∈ c.definitions, d.ListsAliases) :
    (∀ x y, eqIgnoringAsciiCase x y → c.find? x = c.find? y) ∧
    (∀ key, c.Caseless key ↔ (c.get? key = none → ∀ d, c.FirstCalled key d →
      ∀ name, keyOf name = key → d.answersTo name)) ∧
    ∀ key, (∀ a ∈ key.toList, a.toNat < 128 ∧ a ≠ 'k') → c.Caseless key :=
  ⟨fun _ _ => find?_of_eqIgnoringAsciiCase h, fun _ => caseless_iff h, fun _ => caseless_of_ascii h⟩

/-- One alias with a letter beyond ASCII, one with a k, and one without either. -/
def umlauted : Definition := ⟨"g", "G", .names ["Ä", "mark", "js"], []⟩

/-- In the other case the first two find nothing. -/
theorem lookup_caseless_umlauted :
    let c := ofList [umlauted]
    (∀ d ∈ c.definitions, d.ListsAliases) ∧
    keyOf "Ä" = keyOf "ä" ∧ c.contains "Ä" ∧ ¬c.contains "ä" ∧ ¬c.Caseless "ä" ∧
    keyOf "mar\u212A" = keyOf "mark" ∧ c.contains "mark" ∧ ¬c.contains "mar\u212A" ∧
    c.find? "MARK" = c.find? "mark" ∧ c.Caseless "js" := by
  have hlists : ∀ d ∈ (ofList [umlauted]).definitions, d.ListsAliases := by
    intro d hd
    obtain rfl := List.mem_singleton.1 hd
    rfl
  obtain ⟨hascii, hexact, hplain⟩ := lookup_caseless hlists
  refine ⟨hlists, by decide +kernel, by decide +kernel, by decide +kernel, ?_, by decide +kernel,
    by decide +kernel, by decide +kernel, hascii _ _ (by decide +kernel), hplain "js" (by simp)⟩
  intro hcase
  have humlauted : (ofList [umlauted]).FirstCalled "ä" umlauted := by
    refine ⟨List.mem_singleton_self _, ⟨"Ä", List.mem_cons_self, by decide +kernel⟩, ?_⟩
    intro e he _
    rw [List.mem_singleton.1 he]
  have hget : (ofList [umlauted]).get? "ä" = none := by
    rw [← Option.isNone_iff_eq_none]
    decide +kernel
  have hanswers := (hexact "ä").1 hcase hget umlauted humlauted "ä" (by decide +kernel)
  have hno : umlauted.answersTo "ä" = false := by decide +kernel
  exact absurd hanswers (hno ▸ Bool.false_ne_true)

end Catalogue

end ScopeLexer
