import Mathlib.Data.List.Forall2
import ScopeLexer.Json.Number
import ScopeLexer.Language.Definition
import ScopeLexer.Proofs.Json.Grammar

/-! How definitions are written in JSON. A definition is an object with its id, its name, its
aliases and its rules, and a rule one with its pattern and its captures; the fields come in any
order, with others of other names between them, and aliases and captures may be left out if there
are none. A capture is named by the number of its group. How the name of a number is written is a
parameter, since its digits can be escaped like any other characters. -/

namespace ScopeLexer.Language

open Json

/-! ### Parts -/

/-- A tree that is a string, however it is escaped. -/
def Says (s : String) (t : Tree) : Prop := ∃ w, t = .string w ∧ Spells s.toList w

/-- A tree that is a list of items of one kind. -/
def Lists {α : Type} (item : α → Tree → Prop) (as : List α) (t : Tree) : Prop :=
  ∃ ts, t = .list ts ∧ List.Forall₂ item as ts

/-- What fields are called, however that is escaped. -/
def Named (written : List (String × Tree)) (fields : List (List Char × Tree)) : Prop :=
  List.Forall₂ (fun e f => Spells e.1.toList f.1 ∧ f.2 = e.2) written fields

/-- An object with the fields in `known`, all of which have a name in `names`, and others that have
none of these names, in any order. -/
def HasFields (names : List String) (known : List (String × Tree)) (t : Tree) : Prop :=
  ∃ fields written others, t = .object fields ∧ Named written fields ∧
    written.Perm (known ++ others) ∧ ∀ e ∈ others, e.1 ∉ names ∧ e.2.Valid

/-- A field that may be left out on some condition. -/
def Optional (name : String) (dispensable : Prop) (value : Tree → Prop)
    (known : List (String × Tree)) : Prop :=
  (known = [] ∧ dispensable) ∨ ∃ t, known = [(name, t)] ∧ value t

/-- A scope is a string, and a language an object with one field. -/
inductive WritesTarget : Target → Tree → Prop
  | scope {name : String} {t : Tree} (h : Says name t) : WritesTarget (.scope name) t
  | language {name : String} {w : List Char} {t : Tree} (hw : Spells "language".toList w)
      (h : Says name t) : WritesTarget (.language name) (.object [(w, t)])

/-! ### Definitions -/

section

variable (key : Nat → List Char → Prop)

/-- An object with a field for each group, named by its number, in any order. -/
def WritesCaptures (c : Captures) (t : Tree) : Prop :=
  ∃ fields entries, t = .object fields ∧ entries.Perm c.entries ∧
    List.Forall₂ (fun (e : Nat × Target) f => key e.1 f.1 ∧ WritesTarget e.2 f.2) entries fields

def ruleNames : List String := ["pattern", "captures"]

/-- An object with a pattern, and with captures unless there are none. -/
def WritesRule (r : Rule) (t : Tree) : Prop :=
  ∃ pattern captures, Says r.pattern pattern ∧
    Optional "captures" (r.captures = .empty) (WritesCaptures key r.captures) captures ∧
    HasFields ruleNames (("pattern", pattern) :: captures) t

def definitionNames : List String := ["id", "name", "aliases", "rules"]

/-- An object with an id, a name and rules, and with aliases unless there are none. -/
def WritesDefinition (d : Definition) (t : Tree) : Prop :=
  ∃ ns id name rules aliases, d.aliases = .names ns ∧ Says d.id id ∧ Says d.name name ∧
    Lists (WritesRule key) d.rules rules ∧ Optional "aliases" (ns = []) (Lists Says ns) aliases ∧
    HasFields definitionNames (("id", id) :: ("name", name) :: ("rules", rules) :: aliases) t

/-- A text that is a definition, with blanks between its pieces in any way. -/
def Renders (d : Definition) (text : String) : Prop :=
  ∃ t, WritesDefinition key d t ∧ Spaced t.pieces text.toList

end

/-- The digits of a number that fits into 64 bits. -/
def PlainKey (i : Nat) (w : List Char) : Prop := i ≤ largest ∧ w = (toString i).toList

/-- The same digits, however they are escaped. -/
def SpelledKey (i : Nat) (w : List Char) : Prop := i ≤ largest ∧ Spells (toString i).toList w

/-- Without others, and in their order, the fields of an object are those that are known. -/
theorem hasFields_self {names : List String} {known : List (String × Tree)}
    (h : ∀ e ∈ known, ∀ c ∈ e.1.toList, IsPlain c) :
    HasFields names known (.object (known.map fun e => (e.1.toList, e.2))) := by
  refine ⟨_, known, [], rfl, ?_, by simp, nofun⟩
  rw [Named, List.forall₂_map_right_iff, List.forall₂_same]
  exact fun e he => ⟨spells_self (h e he), rfl⟩

/-! ### Spellings of numbers -/

theorem PlainKey.spelled {i : Nat} {w : List Char} (h : PlainKey i w) : SpelledKey i w := by
  obtain ⟨hi, rfl⟩ := h
  refine ⟨hi, spells_self fun d hd => ?_⟩
  rw [Nat.toString_eq_repr, Nat.toList_repr] at hd
  have hdigit := Nat.isDigit_of_mem_toDigits (by decide) (by decide) hd
  simp only [Char.isDigit, Bool.and_eq_true, decide_eq_true_eq] at hdigit
  have hlow : 0x30 ≤ d.toNat := hdigit.1
  have hhigh : d.toNat ≤ 0x39 := hdigit.2
  refine ⟨by omega, ?_, ?_⟩ <;>
  · rintro rfl
    revert hlow hhigh
    decide

variable {key key' : Nat → List Char → Prop}

theorem Lists.imp {α : Type} {item item' : α → Tree → Prop} (h : ∀ a t, item a t → item' a t)
    {as : List α} {t : Tree} : Lists item as t → Lists item' as t
  | ⟨ts, ht, hts⟩ => ⟨ts, ht, hts.imp h⟩

theorem Optional.imp {name : String} {dispensable : Prop} {value value' : Tree → Prop}
    (h : ∀ t, value t → value' t) {known : List (String × Tree)} :
    Optional name dispensable value known → Optional name dispensable value' known
  | .inl hempty => .inl hempty
  | .inr ⟨t, ht, hvalue⟩ => .inr ⟨t, ht, h t hvalue⟩

section

variable (h : ∀ i w, key i w → key' i w)

include h

theorem WritesCaptures.imp {c : Captures} {t : Tree} :
    WritesCaptures key c t → WritesCaptures key' c t
  | ⟨fields, entries, ht, hperm, hentries⟩ =>
    ⟨fields, entries, ht, hperm, hentries.imp fun _ _ he => ⟨h _ _ he.1, he.2⟩⟩

theorem WritesRule.imp {r : Rule} {t : Tree} : WritesRule key r t → WritesRule key' r t
  | ⟨pattern, captures, hp, hc, ht⟩ =>
    ⟨pattern, captures, hp, hc.imp fun _ => WritesCaptures.imp h, ht⟩

theorem WritesDefinition.imp {d : Definition} {t : Tree} :
    WritesDefinition key d t → WritesDefinition key' d t
  | ⟨ns, id, name, rules, aliases, hns, hid, hname, hrules, haliases, ht⟩ =>
    ⟨ns, id, name, rules, aliases, hns, hid, hname, hrules.imp fun _ _ => WritesRule.imp h,
      haliases, ht⟩

theorem Renders.imp {d : Definition} {text : String} : Renders key d text → Renders key' d text
  | ⟨t, ht, hs⟩ => ⟨t, ht.imp h, hs⟩

end

/-! ### Names -/

/-- Fields with different names, all of them in `names`. -/
def Distinct (names : List String) (known : List (String × Tree)) : Prop :=
  (known.map (·.1)).Nodup ∧ ∀ e ∈ known, e.1 ∈ names

theorem ruleNames_distinct {dispensable : Prop} {value : Tree → Prop}
    {captures : List (String × Tree)} (h : Optional "captures" dispensable value captures)
    (pattern : Tree) : Distinct ruleNames (("pattern", pattern) :: captures) := by
  rcases h with ⟨rfl, -⟩ | ⟨t, rfl, -⟩ <;> simp [Distinct, ruleNames]

theorem definitionNames_distinct {dispensable : Prop} {value : Tree → Prop}
    {aliases : List (String × Tree)} (h : Optional "aliases" dispensable value aliases)
    (id name rules : Tree) :
    Distinct definitionNames (("id", id) :: ("name", name) :: ("rules", rules) :: aliases) := by
  rcases h with ⟨rfl, -⟩ | ⟨t, rfl, -⟩ <;> simp [Distinct, definitionNames]

/-! ### Validity -/

theorem itemsValid_iff {ts : List Tree} : Tree.ItemsValid ts ↔ ∀ t ∈ ts, t.Valid := by
  induction ts with
  | nil => simp [Tree.ItemsValid]
  | cons t ts ih => simp [Tree.ItemsValid, ih]

theorem fieldsValid_iff {fields : List (List Char × Tree)} :
    Tree.FieldsValid fields ↔ ∀ f ∈ fields, IsString f.1 ∧ f.2.Valid := by
  induction fields with
  | nil => simp [Tree.FieldsValid]
  | cons f fields ih => simp [Tree.FieldsValid, ih, and_assoc]

theorem exists_of_mem_right {α β : Type} {R : α → β → Prop} {as : List α} {bs : List β}
    (h : List.Forall₂ R as bs) {b : β} (hb : b ∈ bs) : ∃ a ∈ as, R a b := by
  induction h with
  | nil => cases hb
  | @cons a c as bs hac _ ih =>
    rcases List.mem_cons.1 hb with rfl | hb
    · exact ⟨a, List.mem_cons_self, hac⟩
    · obtain ⟨a', ha', hR⟩ := ih hb
      exact ⟨a', List.mem_cons_of_mem _ ha', hR⟩

theorem Says.valid {s : String} {t : Tree} : Says s t → t.Valid
  | ⟨_, ht, hw⟩ => ht ▸ hw.isString

theorem Lists.valid {α : Type} {item : α → Tree → Prop} {as : List α} {t : Tree}
    (hitem : ∀ a t, item a t → t.Valid) : Lists item as t → t.Valid
  | ⟨ts, ht, hts⟩ => by
    subst ht
    refine itemsValid_iff.2 fun t ht => ?_
    obtain ⟨a, -, ha⟩ := exists_of_mem_right hts ht
    exact hitem a t ha

theorem HasFields.valid {names : List String} {known : List (String × Tree)} {t : Tree}
    (hknown : ∀ e ∈ known, e.2.Valid) : HasFields names known t → t.Valid
  | ⟨fields, written, others, ht, hnamed, hperm, hothers⟩ => by
    subst ht
    refine fieldsValid_iff.2 fun f hf => ?_
    obtain ⟨e, he, hspells, hvalue⟩ := exists_of_mem_right hnamed hf
    refine ⟨hspells.isString, hvalue ▸ ?_⟩
    rcases List.mem_append.1 (hperm.mem_iff.1 he) with he | he
    · exact hknown e he
    · exact (hothers e he).2

theorem Optional.valid {name : String} {dispensable : Prop} {value : Tree → Prop}
    (hvalue : ∀ t, value t → t.Valid) {known : List (String × Tree)}
    (h : Optional name dispensable value known) : ∀ e ∈ known, e.2.Valid := by
  rcases h with ⟨rfl, -⟩ | ⟨t, rfl, ht⟩
  · exact nofun
  · intro e he
    obtain rfl := List.mem_singleton.1 he
    exact hvalue t ht

theorem WritesTarget.valid {target : Target} {t : Tree} (h : WritesTarget target t) : t.Valid := by
  cases h with
  | scope h => exact h.valid
  | language hw h => exact ⟨hw.isString, h.valid, trivial⟩

theorem WritesCaptures.valid {c : Captures} {t : Tree} : WritesCaptures SpelledKey c t → t.Valid
  | ⟨fields, entries, ht, _, hentries⟩ => by
    subst ht
    refine fieldsValid_iff.2 fun f hf => ?_
    obtain ⟨e, -, hkey, htarget⟩ := exists_of_mem_right hentries hf
    exact ⟨hkey.2.isString, htarget.valid⟩

theorem WritesRule.valid {r : Rule} {t : Tree} : WritesRule SpelledKey r t → t.Valid
  | ⟨_, _, hp, hc, ht⟩ => ht.valid (List.forall_mem_cons.2
      ⟨hp.valid, hc.valid fun _ => WritesCaptures.valid⟩)

theorem WritesDefinition.valid {d : Definition} {t : Tree} :
    WritesDefinition SpelledKey d t → t.Valid
  | ⟨_, _, _, _, _, _, hid, hname, hrules, haliases, ht⟩ => ht.valid (List.forall_mem_cons.2
      ⟨hid.valid, List.forall_mem_cons.2 ⟨hname.valid, List.forall_mem_cons.2
        ⟨hrules.valid fun _ _ => WritesRule.valid,
          haliases.valid fun _ => Lists.valid fun _ _ => Says.valid⟩⟩⟩)

end ScopeLexer.Language
