import Mathlib
import ScopeLexer.Proofs.Language.Recovery

/-! Texts are of one definition only. Two trees that one document holds have the same strings in the
same places; so the fields of one name agree, whatever their order, and with them what is written in
them. This holds for numbers of groups with escaped digits too, which are not read. -/

namespace ScopeLexer.Language

open Json

/-! ### Parts -/

section

variable {t t' : Tree} {v : Document}

theorem Says.unique {s s' : String} (h : Says s t) (h' : Says s' t') (hv : t.Held v)
    (hv' : t'.Held v) : s = s' :=
  Except.ok.inj ((h.readString hv).symm.trans (h'.readString hv'))

theorem WritesTarget.unique {target target' : Target} (h : WritesTarget target t)
    (h' : WritesTarget target' t') (hv : t.Held v) (hv' : t'.Held v) : target = target' :=
  Except.ok.inj ((h.read hv).symm.trans (h'.read hv'))

theorem Lists.unique {α : Type} {item : α → Tree → Prop}
    (hitem : ∀ {a a' t t' v}, item a t → item a' t' → t.Held v → t'.Held v → a = a')
    {as as' : List α} (h : Lists item as t) (h' : Lists item as' t') (hv : t.Held v)
    (hv' : t'.Held v) : as = as' := by
  obtain ⟨ds, rfl, hds⟩ := h.held hv
  obtain ⟨_, heq, hds'⟩ := h'.held hv'
  obtain ⟨rfl, -⟩ := Document.list.inj heq
  have hunique : Relator.LeftUnique fun (a : α) (d : Document) => ∃ t, item a t ∧ t.Held d :=
    fun _ _ _ ⟨_, ha, hd⟩ ⟨_, ha', hd'⟩ => hitem ha ha' hd hd'
  exact List.left_unique_forall₂' hunique hds hds'

/-- The digits of a number are those of no other. -/
theorem SpelledKey.unique {key : Raw} {i j : Nat} {w w' : List Char} (h : SpelledKey i w)
    (h' : SpelledKey j w') (hkey : key.Holds w) (hkey' : key.Holds w') : i = j := by
  have htext := Except.ok.inj ((hkey.text h.2).symm.trans (hkey'.text h'.2))
  rw [Nat.toString_eq_repr, Nat.toString_eq_repr] at htext
  have hdigits := congrArg String.toList htext
  rw [Nat.toList_repr, Nat.toList_repr] at hdigits
  rw [← Nat.ofDigitChars_ten_toDigits (n := i), hdigits, Nat.ofDigitChars_ten_toDigits]

theorem CaptureHeld.unique {e e' : Nat × Target} {g : Raw × Document}
    (h : CaptureHeld SpelledKey e g) (h' : CaptureHeld SpelledKey e' g) : e = e' := by
  obtain ⟨f, ⟨hnumber, htarget⟩, hkey, hd⟩ := h
  obtain ⟨f', ⟨hnumber', htarget'⟩, hkey', hd'⟩ := h'
  exact Prod.ext (hnumber.unique hnumber' hkey hkey') (htarget.unique htarget' hd hd')

theorem WritesCaptures.unique {c c' : Captures} (h : WritesCaptures SpelledKey c t)
    (h' : WritesCaptures SpelledKey c' t') (hv : t.Held v) (hv' : t'.Held v) : c = c' := by
  obtain ⟨gs, entries, rfl, hperm, hentries⟩ := h.held hv
  obtain ⟨_, entries', heq, hperm', hentries'⟩ := h'.held hv'
  obtain ⟨rfl, -⟩ := Document.object.inj heq
  have hunique : Relator.LeftUnique (CaptureHeld SpelledKey) := fun _ _ _ => CaptureHeld.unique
  obtain rfl : entries = entries' := List.left_unique_forall₂' hunique hentries hentries'
  exact Captures.eq_of_perm (hperm.symm.trans hperm')

/-! ### Fields -/

/-- What stands in one document in a known field stands in the field of that name of whatever else
the document is. -/
def Meets (known known' : List (String × Tree)) : Prop :=
  ∀ n t, (n, t) ∈ known → ∃ t', (n, t') ∈ known' ∧ ∃ v, t.Held v ∧ t'.Held v

theorem HasFields.meets {names : List String} {known known' : List (String × Tree)}
    (h : HasFields names known t) (hknown : Distinct names known) (h' : HasFields names known' t')
    (hknown' : Distinct names known') (hv : t.Held v) (hv' : t'.Held v) : Meets known known' := by
  obtain ⟨gs, written, rfl, hgs, hw⟩ := h.held hknown hv
  obtain ⟨_, written', heq, hgs', hw'⟩ := h'.held hknown' hv'
  obtain ⟨rfl, -⟩ := Document.object.inj heq
  intro n u hu
  have hn : n ∈ names := hknown.2 _ hu
  obtain ⟨g, hg, htext, hheld⟩ := exists_of_mem_right hgs.flip ((hw.mem_iff (n, u) hn).2 hu)
  obtain ⟨⟨n', u'⟩, he', htext', hheld'⟩ := exists_of_mem_right hgs' hg
  obtain rfl : n = n' := Except.ok.inj (htext.symm.trans htext')
  exact ⟨u', (hw'.mem_iff (n, u') hn).1 he', g.2, hheld, hheld'⟩

theorem Optional.unique {α : Type} {name : String} {value : α → Tree → Prop} {default a a' : α}
    {front front' known known' : List (String × Tree)}
    (h : Optional name (a = default) (value a) known)
    (h' : Optional name (a' = default) (value a') known') (hfront : ∀ e ∈ front, e.1 ≠ name)
    (hfront' : ∀ e ∈ front', e.1 ≠ name) (hmeets : Meets (front ++ known) (front' ++ known'))
    (hmeets' : Meets (front' ++ known') (front ++ known))
    (hvalue : ∀ {t t' v}, value a t → value a' t' → t.Held v → t'.Held v → a = a') : a = a' := by
  rcases h with ⟨rfl, ha⟩ | ⟨t, rfl, ht⟩ <;> rcases h' with ⟨rfl, ha'⟩ | ⟨t', rfl, ht'⟩
  · exact ha.trans ha'.symm
  · obtain ⟨u, hu, -⟩ := hmeets' name t' (by simp)
    exact absurd rfl (hfront _ (by simpa using hu))
  · obtain ⟨u, hu, -⟩ := hmeets name t (by simp)
    exact absurd rfl (hfront' _ (by simpa using hu))
  · obtain ⟨u, hu, v, hv, hv'⟩ := hmeets name t (by simp)
    rcases List.mem_append.1 hu with hu | hu
    · exact absurd rfl (hfront' _ hu)
    · obtain ⟨-, rfl⟩ := Prod.mk.inj (List.mem_singleton.1 hu)
      exact hvalue ht ht' hv hv'

theorem Meets.value {known known' : List (String × Tree)} (h : Meets known known')
    (hknown' : (known'.map (·.1)).Nodup) {n : String} (ht : (n, t) ∈ known)
    (ht' : (n, t') ∈ known') :
    ∃ v, t.Held v ∧ t'.Held v := by
  obtain ⟨u, hu, v, hv, hv'⟩ := h n t ht
  have heq : (n, u) = (n, t') := List.inj_on_of_nodup_map hknown' hu ht' rfl
  obtain ⟨-, rfl⟩ := Prod.mk.inj heq
  exact ⟨v, hv, hv'⟩

/-! ### Rules and definitions -/

theorem WritesRule.unique {r r' : Rule} (h : WritesRule SpelledKey r t)
    (h' : WritesRule SpelledKey r' t') (hv : t.Held v) (hv' : t'.Held v) : r = r' := by
  obtain ⟨pattern, captures, hpattern, hcaptures, ht⟩ := h
  obtain ⟨pattern', captures', hpattern', hcaptures', ht'⟩ := h'
  have hknown := ruleNames_distinct hcaptures pattern
  have hknown' := ruleNames_distinct hcaptures' pattern'
  have hmeets := ht.meets hknown ht' hknown' hv hv'
  have hmeets' := ht'.meets hknown' ht hknown hv' hv
  obtain ⟨u, hu, hu'⟩ :=
    hmeets.value hknown'.1 (n := "pattern") List.mem_cons_self List.mem_cons_self
  have hfront : ∀ p : Tree, ∀ e ∈ [("pattern", p)], e.1 ≠ "captures" := by simp
  have heq := hcaptures.unique hcaptures' (hfront pattern) (hfront pattern') hmeets hmeets'
    WritesCaptures.unique
  obtain ⟨_, _⟩ := r
  obtain ⟨_, _⟩ := r'
  exact congr (congrArg Rule.mk (hpattern.unique hpattern' hu hu')) heq

theorem WritesDefinition.unique {d d' : Definition} (h : WritesDefinition SpelledKey d t)
    (h' : WritesDefinition SpelledKey d' t') (hv : t.Held v) (hv' : t'.Held v) : d = d' := by
  obtain ⟨ns, id, name, rules, aliases, hns, hid, hname, hrules, haliases, ht⟩ := h
  obtain ⟨ns', id', name', rules', aliases', hns', hid', hname', hrules', haliases', ht'⟩ := h'
  have hknown := definitionNames_distinct haliases id name rules
  have hknown' := definitionNames_distinct haliases' id' name' rules'
  have hmeets := ht.meets hknown ht' hknown' hv hv'
  have hmeets' := ht'.meets hknown' ht hknown hv' hv
  obtain ⟨u₁, hu₁, hu₁'⟩ : ∃ u, id.Held u ∧ id'.Held u :=
    hmeets.value hknown'.1 (n := "id") (by simp) (by simp)
  obtain ⟨u₂, hu₂, hu₂'⟩ : ∃ u, name.Held u ∧ name'.Held u :=
    hmeets.value hknown'.1 (n := "name") (by simp) (by simp)
  obtain ⟨u₃, hu₃, hu₃'⟩ : ∃ u, rules.Held u ∧ rules'.Held u :=
    hmeets.value hknown'.1 (n := "rules") (by simp) (by simp)
  have hfront : ∀ i n r : Tree, ∀ e ∈ [("id", i), ("name", n), ("rules", r)], e.1 ≠ "aliases" := by
    simp
  have heq : ns = ns' := haliases.unique haliases' (hfront id name rules) (hfront id' name' rules')
    hmeets hmeets' (Lists.unique Says.unique)
  have hid : d.id = d'.id := hid.unique hid' hu₁ hu₁'
  have hname : d.name = d'.name := hname.unique hname' hu₂ hu₂'
  have hrules : d.rules = d'.rules := hrules.unique WritesRule.unique hrules' hu₃ hu₃'
  obtain ⟨_, _, _, _⟩ := d
  obtain ⟨_, _, _, _⟩ := d'
  cases hid
  cases hname
  cases hrules
  cases hns
  cases hns'
  rw [heq]

end

/-- A text is of one definition at most. -/
theorem Renders.unique {d d' : Definition} {text : String} (h : Renders SpelledKey d text)
    (h' : Renders SpelledKey d' text) : d = d' := by
  obtain ⟨t, ht, hs⟩ := h
  obtain ⟨t', ht', hs'⟩ := h'
  obtain ⟨v, hv, htext⟩ := ht.valid.ofText hs
  obtain ⟨v', hv', htext'⟩ := ht'.valid.ofText hs'
  obtain ⟨rfl, -⟩ := Prod.mk.inj (htext.symm.trans htext')
  exact ht.unique ht' hv hv'

/-! ### Recovery -/

/-- Every text of a definition in which the numbers of groups are plain digits is read as that
definition, and no text is one of two definitions, however the digits are escaped. -/
theorem recovers_rendered :
    (∀ d text, Renders PlainKey d text → Definition.ofJson text.toUTF8.toList = .ok d) ∧
      (∀ d text, Renders PlainKey d text → Renders SpelledKey d text) ∧
      ∀ d d' text, Renders SpelledKey d text → Renders SpelledKey d' text → d = d' :=
  ⟨fun _ _ h => h.ofJson, fun _ _ h => h.imp fun _ _ => PlainKey.spelled,
    fun _ _ _ h h' => h.unique h'⟩

/-- A rule with a target for its first group. -/
def onesRule : Rule := ⟨"p", .ofList [(1, .scope "one")]⟩

def ones : Definition := ⟨"i", "n", .names [], [onesRule]⟩

/-- How the rule is written if the number of its group is `w`. -/
def onesTree (w : List Char) : Tree :=
  .object [("pattern".toList, .string "p".toList),
    ("captures".toList, .object [(w, .string "one".toList)])]

theorem onesRule_written {key : Nat → List Char → Prop} {w : List Char} (h : key 1 w) :
    WritesRule key onesRule (onesTree w) := by
  have hstring : ∀ s ∈ ["p", "one"], Says s (.string s.toList) :=
    fun s hs => ⟨s.toList, rfl, spells_self (by revert s; simp; decide)⟩
  have hcaptures : WritesCaptures key onesRule.captures (.object [(w, .string "one".toList)]) :=
    ⟨_, [(1, .scope "one")], rfl, .refl _, .cons ⟨h, .scope (hstring _ (by simp))⟩ .nil⟩
  exact ⟨_, _, hstring "p" (by simp), .inr ⟨_, rfl, hcaptures⟩, hasFields_self (by simp; decide)⟩

theorem isHex_digitChar {v : Nat} (h : v < 16) : IsHex v (Nat.digitChar v) := ⟨h, .inl rfl⟩

/-- A field of another name, in which half of a pair stands alone. -/
def otherTree : Tree := .list [.number "-1.5".toList, .string "\\ud800".toList, .null]

theorem otherTree_valid : otherTree.Valid := by
  have hdigits : ∀ d ∈ ['1', '5'], AreDigits [d] := by simp [AreDigits, Char.isDigit]
  have hnumber : IsNumber (['-'] ++ (['1'] ++ (['.', '5'] ++ []))) :=
    .parts (.inr rfl) ⟨hdigits _ (by simp), by decide⟩ (.inr ⟨['5'], hdigits _ (by simp), rfl⟩)
      (.inl rfl)
  have hcode : HexFour 0xD800 ['d', '8', '0', '0'] :=
    .digits (isHex_digitChar (v := 13) (by decide)) (isHex_digitChar (v := 8) (by decide))
      (isHex_digitChar (v := 0) (by decide)) (isHex_digitChar (v := 0) (by decide))
  exact ⟨hnumber, .code hcode .nil, trivial, trivial⟩

/-- The definition with its fields in reverse, another field, and an escaped name. -/
def reversedTree : Tree :=
  .object [("x".toList, otherTree), ("rules".toList, .list [onesTree "1".toList]),
    ("name".toList, .string "n".toList), ("\\u0069d".toList, .string "i".toList)]

theorem reversedTree_written : WritesDefinition PlainKey ones reversedTree := by
  have hid : Spells "id".toList "\\u0069d".toList := by
    have hcode : HexFour 'i'.toNat ['0', '0', '6', '9'] :=
      .digits (isHex_digitChar (v := 0) (by decide)) (isHex_digitChar (v := 0) (by decide))
        (isHex_digitChar (v := 6) (by decide)) (isHex_digitChar (v := 9) (by decide))
    exact .cons (.code hcode) (spells_self (by simp; decide))
  have hplain : ∀ s ∈ ["i", "n", "x", "name", "rules"], Spells s.toList s.toList :=
    fun s hs => spells_self (by revert s; simp; decide)
  have hrules : Lists (WritesRule PlainKey) ones.rules (.list [onesTree "1".toList]) :=
    ⟨_, rfl, .cons (onesRule_written ⟨by decide, rfl⟩) .nil⟩
  have hfields : HasFields definitionNames
      [("id", .string "i".toList), ("name", .string "n".toList),
        ("rules", .list [onesTree "1".toList])] reversedTree := by
    refine ⟨_, _, [("x", otherTree)], rfl, ?_, List.reverse_perm _, ?_⟩
    · exact .cons ⟨hplain _ (by simp), rfl⟩ (.cons ⟨hplain _ (by simp), rfl⟩
        (.cons ⟨hplain _ (by simp), rfl⟩ (.cons ⟨hid, rfl⟩ .nil)))
    · simpa [definitionNames] using otherTree_valid
  exact ⟨[], _, _, _, [], rfl, ⟨_, rfl, hplain "i" (by simp)⟩, ⟨_, rfl, hplain "n" (by simp)⟩,
    hrules, .inl ⟨rfl, rfl⟩, hfields⟩

/-- A text of it with blanks before all pieces. -/
def reversedText : String :=
  " \x7b \"x\" : [ -1.5 , \"\\ud800\" , null ] , \"rules\" : [ \x7b \"pattern\" : \"p\" , " ++
    "\"captures\" : \x7b \"1\" : \"one\" \x7d \x7d ] , \"name\" : \"n\" , \"\\u0069d\" : \"i\" \x7d"

theorem recovers_rendered_reversed :
    Renders PlainKey ones reversedText ∧
      Definition.ofJson reversedText.toUTF8.toList = .ok ones := by
  have hblanks : AreBlanks [' '] := by simp [AreBlanks]
  have htext : reversedText.toList = reversedTree.pieces.flatMap ([' '] ++ ·) := by cbv
  have h : Renders PlainKey ones reversedText :=
    ⟨reversedTree, reversedTree_written, htext.symm ▸ spaced_flatMap hblanks _⟩
  exact ⟨h, recovers_rendered.1 _ _ h⟩

/-- A text without blanks, in which the digit is escaped. -/
def escapedText : String :=
  "\x7b\"id\":\"i\",\"name\":\"n\",\"rules\":[\x7b\"pattern\":\"p\",\"captures\":" ++
    "\x7b\"\\u0031\":\"one\"\x7d\x7d]\x7d"

/-- A number is not read if its digits are escaped, though the text is of the same definition. -/
theorem escaped_number_not_read :
    Renders SpelledKey ones escapedText ∧
      Definition.ofJson escapedText.toUTF8.toList = .error (.badJson .keyNotNumber) := by
  have hcode : HexFour '1'.toNat ['0', '0', '3', '1'] :=
    .digits (isHex_digitChar (v := 0) (by decide)) (isHex_digitChar (v := 0) (by decide))
      (isHex_digitChar (v := 3) (by decide)) (isHex_digitChar (v := 1) (by decide))
  have hkey : SpelledKey 1 "\\u0031".toList := ⟨by decide, .cons (.code hcode) .nil⟩
  have hstring : ∀ s ∈ ["i", "n"], Says s (.string s.toList) :=
    fun s hs => ⟨s.toList, rfl, spells_self (by revert s; simp; decide)⟩
  have hwritten : WritesDefinition SpelledKey ones
      (.object [("id".toList, .string "i".toList), ("name".toList, .string "n".toList),
        ("rules".toList, .list [onesTree "\\u0031".toList])]) :=
    ⟨[], _, _, _, [], rfl, hstring "i" (by simp), hstring "n" (by simp),
      ⟨_, rfl, .cons (onesRule_written hkey) .nil⟩, .inl ⟨rfl, rfl⟩,
      hasFields_self (by simp; decide)⟩
  have hblanks : AreBlanks [] := nofun
  exact ⟨⟨_, hwritten, spaced_flatMap hblanks _⟩, by cbv⟩

end ScopeLexer.Language
