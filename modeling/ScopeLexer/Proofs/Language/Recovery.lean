import ScopeLexer.Language.Json
import ScopeLexer.Proofs.Json.Trees
import ScopeLexer.Proofs.Language.Rendering

/-! Reading what is written. Whatever the order of the fields, the blanks, the escapes and the
fields that are passed over, a text of a definition is read as that definition, as long as the
numbers of its groups are in plain digits. The fields of an object are read one by one into a draft;
what the draft holds depends only on the names that were seen, so their order does not matter. -/

namespace ScopeLexer.Language

open Json

/-! ### Captures -/

namespace Captures

theorem insertEntry_perm {i : Nat} (t : Target) {es : List (Nat × Target)}
    (h : ∀ e ∈ es, e.1 ≠ i) : (insertEntry i t es).Perm ((i, t) :: es) := by
  induction es with
  | nil => exact .refl _
  | cons f es ih =>
    have hf : i ≠ f.1 := (h f List.mem_cons_self).symm
    rw [insertEntry]
    split
    · exact .refl _
    · exact ((ih fun e he => h e (List.mem_cons_of_mem _ he)).cons f).trans (.swap _ _ _)

/-- Targets for different numbers are all kept. -/
theorem foldl_insert_perm {es : List (Nat × Target)} (hes : (es.map (·.1)).Nodup) {c : Captures}
    (hc : ∀ e ∈ es, ∀ f ∈ c.entries, f.1 ≠ e.1) :
    (es.foldl (fun c (i, t) => c.insert i t) c).entries.Perm (c.entries ++ es) := by
  induction es generalizing c with
  | nil => simp
  | cons e es ih =>
    obtain ⟨hhead, htail⟩ := List.nodup_cons.1 hes
    have hinsert : (c.insert e.1 e.2).entries.Perm (e :: c.entries) :=
      insertEntry_perm e.2 (hc e List.mem_cons_self)
    have hnew : ∀ e' ∈ es, ∀ f ∈ (c.insert e.1 e.2).entries, f.1 ≠ e'.1 := by
      intro e' he' f hf
      rcases List.mem_cons.1 (hinsert.mem_iff.1 hf) with rfl | hf
      · exact fun h => hhead (List.mem_map.2 ⟨e', he', h.symm⟩)
      · exact hc e' (List.mem_cons_of_mem _ he') f hf
    exact (ih htail hnew).trans ((hinsert.append_right es).trans List.perm_middle.symm)

theorem keys_nodup (c : Captures) : (c.entries.map (·.1)).Nodup := by
  rw [List.Nodup, List.pairwise_map]
  exact c.sorted.imp Nat.ne_of_lt

/-- Captures with the same entries in any order are the same. -/
theorem eq_of_perm {c c' : Captures} (h : c.entries.Perm c'.entries) : c = c' := by
  have hentries : c.entries = c'.entries :=
    h.eq_of_pairwise (fun _ _ _ _ hab hba => absurd hab (Nat.lt_asymm hba)) c.sorted c'.sorted
  cases c
  cases c'
  cases hentries
  rfl

theorem ofList_perm {c : Captures} {es : List (Nat × Target)} (h : es.Perm c.entries) :
    ofList es = c := by
  have hnodup : (es.map (·.1)).Nodup := (h.map _).nodup_iff.2 c.keys_nodup
  exact eq_of_perm ((foldl_insert_perm hnodup fun _ _ _ hf => absurd hf List.not_mem_nil).trans h)

end Captures

/-! ### Lists -/

theorem forall₂_comp {α β γ : Type} {R : α → β → Prop} {S : β → γ → Prop} {as : List α}
    {bs : List β} {cs : List γ} (h : List.Forall₂ R as bs) (h' : List.Forall₂ S bs cs) :
    List.Forall₂ (fun a c => ∃ b, R a b ∧ S b c) as cs := by
  induction h generalizing cs with
  | nil =>
    cases h'
    exact .nil
  | cons hab _ ih =>
    cases h' with
    | cons hbc h' => exact .cons ⟨_, hab, hbc⟩ (ih h')

theorem mapM_eq_ok {ε α β : Type} {read : β → Except ε α} {as : List α} {bs : List β}
    (h : List.Forall₂ (fun a b => read b = .ok a) as bs) : bs.mapM read = .ok as := by
  induction h with
  | nil => rfl
  | cons hab _ ih =>
    rw [List.mapM_cons, hab, ih]
    rfl

theorem forall₂_itemsHeld {ts : List Tree} {ds : List Document} (h : ItemsHeld ts ds) :
    List.Forall₂ Tree.Held ts ds := by
  induction ts generalizing ds with
  | nil =>
    obtain rfl := h
    exact .nil
  | cons t ts ih =>
    obtain ⟨d, rest, rfl, hd, hrest⟩ := h
    exact .cons hd (ih hrest)

theorem forall₂_fieldsHeld {fields : List (List Char × Tree)} {gs : List (Raw × Document)}
    (h : FieldsHeld fields gs) :
    List.Forall₂ (fun f g => Raw.Holds g.1 f.1 ∧ f.2.Held g.2) fields gs := by
  induction fields generalizing gs with
  | nil =>
    obtain rfl := h
    exact .nil
  | cons f fields ih =>
    obtain ⟨key, d, rest, rfl, hkey, hd, hrest⟩ := h
    exact .cons ⟨hkey, hd⟩ (ih hrest)

theorem Lists.held {α : Type} {item : α → Tree → Prop} {as : List α} {t : Tree} {d : Document}
    (h : Lists item as t) (hd : t.Held d) :
    ∃ ds, d = .list ds .closed ∧ List.Forall₂ (fun a d => ∃ t, item a t ∧ t.Held d) as ds := by
  obtain ⟨ts, rfl, hts⟩ := h
  obtain ⟨ds, rfl, hds⟩ := hd
  exact ⟨ds, rfl, forall₂_comp hts (forall₂_itemsHeld hds)⟩

theorem Lists.readList {α : Type} {item : α → Tree → Prop} {read : Document → Except Fault α}
    (hread : ∀ {a t d}, item a t → t.Held d → read d = .ok a) {as : List α} {t : Tree}
    {d : Document} (h : Lists item as t) (hd : t.Held d) : d.readList read = .ok as := by
  obtain ⟨ds, rfl, hds⟩ := h.held hd
  rw [Document.readList, mapM_eq_ok (hds.imp fun _ _ ⟨_, ha, hd⟩ => hread ha hd)]
  rfl

/-! ### Strings and targets -/

section

variable {s : String} {t : Tree} {d : Document}

theorem Says.readString (h : Says s t) (hd : t.Held d) : d.readString = .ok s := by
  obtain ⟨w, rfl, hw⟩ := h
  obtain ⟨r, rfl, hr⟩ := hd
  exact hr.text hw

theorem Says.value (h : Says s t) (hd : t.Held d) (room : Nat) :
    d.value room = .ok (.string s) := by
  obtain ⟨w, rfl, hw⟩ := h
  obtain ⟨r, rfl, hr⟩ := hd
  rw [Document.value, hr.text hw]
  rfl

theorem WritesTarget.read {target : Target} (h : WritesTarget target t) (hd : t.Held d) :
    readTarget d = .ok target := by
  cases h with
  | scope h =>
    rw [readTarget, h.value hd]
    rfl
  | @language name w t hw h =>
    obtain ⟨gs, rfl, key, d, rest, rfl, hkey, hd, rfl⟩ := hd
    have hvalue : Document.value captureNesting (.object [(key, d)] .closed) =
        .ok (.object [("language", .string name)]) := by
      rw [Document.value, if_neg (by decide), Document.fieldValues, hkey.text hw, h.value hd]
      rfl
    rw [readTarget, hvalue]
    rfl

end

/-- A field for a group as it stands in a document. -/
def CaptureHeld (key : Nat → List Char → Prop) (e : Nat × Target) (g : Raw × Document) : Prop :=
  ∃ f : List Char × Tree, (key e.1 f.1 ∧ WritesTarget e.2 f.2) ∧ g.1.Holds f.1 ∧ f.2.Held g.2

theorem WritesCaptures.held {key : Nat → List Char → Prop} {c : Captures} {t : Tree} {d : Document}
    (h : WritesCaptures key c t) (hd : t.Held d) :
    ∃ gs entries, d = .object gs .closed ∧ entries.Perm c.entries ∧
      List.Forall₂ (CaptureHeld key) entries gs := by
  obtain ⟨fields, entries, rfl, hperm, hentries⟩ := h
  obtain ⟨gs, rfl, hgs⟩ := hd
  exact ⟨gs, entries, rfl, hperm, forall₂_comp hentries (forall₂_fieldsHeld hgs)⟩

theorem CaptureHeld.read {e : Nat × Target} {g : Raw × Document} (h : CaptureHeld PlainKey e g) :
    readCapture g = .ok e := by
  obtain ⟨f, ⟨⟨hfits, hdigits⟩, htarget⟩, hkey, hd⟩ := h
  rw [hdigits] at hkey
  rw [readCapture, hkey.number hfits, htarget.read hd]
  rfl

theorem WritesCaptures.read {c : Captures} {t : Tree} {d : Document}
    (h : WritesCaptures PlainKey c t) (hd : t.Held d) : readCaptures d = .ok c := by
  obtain ⟨gs, entries, rfl, hperm, hentries⟩ := h.held hd
  rw [readCaptures, mapM_eq_ok (hentries.imp fun _ _ => CaptureHeld.read)]
  exact congrArg Except.ok (Captures.ofList_perm hperm)

/-! ### Fields -/

/-- A field as it stands in a document. -/
def FieldHeld (e : String × Tree) (g : Raw × Document) : Prop :=
  g.1.text = .ok e.1 ∧ e.2.Held g.2

/-- Fields of which those with a name in `names` are known, and occur once; others can be passed
over. -/
structure Fielded (names : List String) (known written : List (String × Tree)) : Prop where
  mem_iff : ∀ e : String × Tree, e.1 ∈ names → (e ∈ written ↔ e ∈ known)
  once : written.Pairwise fun e f => e.1 ∈ names → f.1 ≠ e.1
  valid : ∀ e ∈ written, e.1 ∉ names → e.2.Valid

theorem Named.held {written : List (String × Tree)} {fields : List (List Char × Tree)}
    (h : Named written fields) {gs : List (Raw × Document)} (hgs : FieldsHeld fields gs) :
    List.Forall₂ FieldHeld written gs :=
  (forall₂_comp h (forall₂_fieldsHeld hgs)).imp fun _ _ ⟨_, ⟨hname, hvalue⟩, hkey, hd⟩ =>
    ⟨hkey.text hname, hvalue ▸ hd⟩

theorem HasFields.held {names : List String} {known : List (String × Tree)} {t : Tree}
    {d : Document} (h : HasFields names known t) (hknown : Distinct names known) (hd : t.Held d) :
    ∃ gs written, d = .object gs .closed ∧ List.Forall₂ FieldHeld written gs ∧
      Fielded names known written := by
  obtain ⟨fields, written, others, rfl, hnamed, hperm, hothers⟩ := h
  obtain ⟨gs, rfl, hgs⟩ := hd
  refine ⟨gs, written, rfl, hnamed.held hgs, ⟨fun e he => ?_, ?_, fun e he hn => ?_⟩⟩
  · rw [hperm.mem_iff, List.mem_append]
    exact or_iff_left fun h => (hothers e h).1 he
  · have hsymm : ∀ {e f : String × Tree}, (e.1 ∈ names → f.1 ≠ e.1) → f.1 ∈ names → e.1 ≠ f.1 :=
      fun h hf heq => h (heq ▸ hf) heq.symm
    refine (hperm.pairwise_iff hsymm).2 (List.pairwise_append.2 ⟨?_, ?_, ?_⟩)
    · exact (List.pairwise_map.1 hknown.1).imp fun h _ => h.symm
    · exact List.pairwise_of_forall_mem_list fun e he _ _ hn => absurd hn (hothers e he).1
    · exact fun e _ f hf hn h => (hothers f hf).1 (h ▸ hn)
  · rcases List.mem_append.1 (hperm.mem_iff.1 he) with he | he
    · exact absurd (hknown.2 e he) hn
    · exact (hothers e he).2

/-- If each field in turn leads from the state of the names before it to that of its own name too,
all of them lead to the state of all names. -/
theorem Fielded.foldlM {names : List String} {known written : List (String × Tree)}
    (h : Fielded names known written) {gs : List (Raw × Document)}
    (hgs : List.Forall₂ FieldHeld written gs) {σ : Type} (f : σ → Raw × Document → Except Fault σ)
    (state : List String → σ)
    (hstep : ∀ {e g seen}, FieldHeld e g → (e.1 ∈ names → e ∈ known ∧ e.1 ∉ seen) →
      (e.1 ∉ names → e.2.Valid) → f (state seen) g = .ok (state (e.1 :: seen))) :
    gs.foldlM f (state []) = .ok (state (written.map (·.1)).reverse) := by
  have hfrom : ∀ seen, (∀ e ∈ written, e.1 ∈ names → e.1 ∉ seen) →
      gs.foldlM f (state seen) = .ok (state ((written.map (·.1)).reverse ++ seen)) := by
    -- What is left of `written` shrinks along the induction, so only what holds of any part stays.
    have hmem := fun e he hn => (h.mem_iff e hn).1 he
    have honce := h.once
    have hvalid := h.valid
    clear h
    induction hgs with
    | nil => exact fun seen _ => rfl
    | @cons e g written gs hg _ ih =>
      intro seen hseen
      obtain ⟨hhead, honce⟩ := List.pairwise_cons.1 honce
      have hnext : ∀ e' ∈ written, e'.1 ∈ names → e'.1 ∉ e.1 :: seen := by
        intro e' he' hn hmem'
        rcases List.mem_cons.1 hmem' with heq | hmem'
        · exact hhead e' he' (heq ▸ hn) heq
        · exact hseen e' (List.mem_cons_of_mem _ he') hn hmem'
      rw [List.foldlM_cons, hstep hg
        (fun hn => ⟨hmem e List.mem_cons_self hn, hseen e List.mem_cons_self hn⟩)
        (hvalid e List.mem_cons_self), List.map_cons, List.reverse_cons, List.append_assoc]
      exact ih (fun e' he' => hmem e' (List.mem_cons_of_mem _ he')) honce
        (fun e' he' => hvalid e' (List.mem_cons_of_mem _ he')) _ hnext
  simpa using hfrom [] fun _ _ _ => List.not_mem_nil

/-- Nothing is missing of a field once all names are seen, unless there is nothing in it. -/
theorem Fielded.seen {names : List String} {known written : List (String × Tree)}
    (h : Fielded names known written) {n : String} (hn : n ∈ names) {α : Type} {o : Option α}
    (ho : o = none ∨ n ∈ known.map (·.1)) :
    (if n ∈ (written.map (·.1)).reverse then o else none) = o := by
  rcases ho with rfl | hknown
  · exact ite_self none
  · obtain ⟨e, he, rfl⟩ := List.mem_map.1 hknown
    exact if_pos (List.mem_reverse.2 (List.mem_map_of_mem ((h.mem_iff e hn).2 he)))

/-! ### Rules -/

/-- What is known of a rule once the fields of some names are read. -/
def Rule.draft (r : Rule) (captures : Option Captures) (seen : List String) : RuleDraft :=
  ⟨if "pattern" ∈ seen then some r.pattern else none, if "captures" ∈ seen then captures else none⟩

/-- A known field of a rule. -/
def Rule.Known (r : Rule) (captures : Option Captures) (e : String × Tree) : Prop :=
  (e.1 = "pattern" → Says r.pattern e.2) ∧
    (e.1 = "captures" → captures = some r.captures ∧ WritesCaptures PlainKey r.captures e.2)

theorem Rule.readField_draft {r : Rule} {captures : Option Captures} {e : String × Tree}
    {g : Raw × Document} {seen : List String} (hg : FieldHeld e g)
    (hknown : e.1 ∈ ruleNames → r.Known captures e ∧ e.1 ∉ seen)
    (hvalid : e.1 ∉ ruleNames → e.2.Valid) :
    (r.draft captures seen).readField g = .ok (r.draft captures (e.1 :: seen)) := by
  obtain ⟨name, t⟩ := e
  obtain ⟨htext, hd⟩ := hg
  rw [RuleDraft.readField, htext]
  simp only [bind, Except.bind]
  split
  · obtain ⟨⟨hstring, -⟩, hnew⟩ := hknown (by simp [ruleNames])
    simp [draft, single, ensure, hnew, (hstring rfl).readString hd, pure, Except.pure]
  · obtain ⟨⟨-, hwrites⟩, hnew⟩ := hknown (by simp [ruleNames])
    obtain ⟨hcaptures, hwrites⟩ := hwrites rfl
    simp [draft, single, ensure, hnew, hwrites.read hd, hcaptures, pure, Except.pure]
  · next hpattern hcaptures =>
    have hname : name ∉ ruleNames := by
      simp only [ruleNames, List.mem_cons, List.not_mem_nil, or_false, not_or]
      exact ⟨hpattern, hcaptures⟩
    simp [(hvalid hname).skim hd, draft, Ne.symm hpattern, Ne.symm hcaptures, pure, Except.pure]

/-- A rule is read from its fields, in whatever order they come. -/
theorem Rule.foldlM_readField (r : Rule) (captures : Option Captures)
    {known written : List (String × Tree)} {gs : List (Raw × Document)}
    (hknown : ∀ e ∈ known, r.Known captures e) (h : Fielded ruleNames known written)
    (hgs : List.Forall₂ FieldHeld written gs) (hpattern : "pattern" ∈ known.map (·.1))
    (hcaptures : captures = none ∨ "captures" ∈ known.map (·.1)) :
    gs.foldlM RuleDraft.readField {} = .ok ⟨some r.pattern, captures⟩ := by
  have hfold := h.foldlM hgs RuleDraft.readField (r.draft captures)
    fun hg hn => Rule.readField_draft hg fun hmem => ⟨hknown _ (hn hmem).1, (hn hmem).2⟩
  rwa [draft, draft, h.seen (by simp [ruleNames]) (.inr hpattern),
    h.seen (by simp [ruleNames]) hcaptures] at hfold

theorem WritesRule.read {r : Rule} {t : Tree} {d : Document} (h : WritesRule PlainKey r t)
    (hd : t.Held d) : readRule d = .ok r := by
  obtain ⟨pattern, captures, hpattern, hcaptures, ht⟩ := h
  obtain ⟨gs, written, rfl, hgs, hw⟩ := ht.held (ruleNames_distinct hcaptures pattern) hd
  rcases hcaptures with ⟨rfl, hempty⟩ | ⟨c, rfl, hc⟩
  · have hfold := r.foldlM_readField none (by simp [Rule.Known, hpattern]) hw hgs
      (by simp) (.inl rfl)
    have hr : (⟨r.pattern, .empty⟩ : Rule) = r := by rw [← hempty]
    rw [readRule, hfold]
    exact congrArg Except.ok hr
  · have hfold := r.foldlM_readField (some r.captures)
      (by simp [Rule.Known, hpattern, hc]) hw hgs (by simp) (.inr (by simp))
    rw [readRule, hfold]
    rfl

/-! ### Definitions -/

/-- What is known of a definition once the fields of some names are read. -/
def Definition.draft (d : Definition) (aliases : Option (List String)) (seen : List String) :
    Draft :=
  ⟨if "id" ∈ seen then some d.id else none, if "name" ∈ seen then some d.name else none,
    if "aliases" ∈ seen then aliases else none, if "rules" ∈ seen then some d.rules else none⟩

/-- A known field of a definition. -/
def Definition.Known (d : Definition) (aliases : Option (List String)) (e : String × Tree) : Prop :=
  (e.1 = "id" → Says d.id e.2) ∧ (e.1 = "name" → Says d.name e.2) ∧
    (e.1 = "aliases" → ∃ ns, aliases = some ns ∧ Lists Says ns e.2) ∧
    (e.1 = "rules" → Lists (WritesRule PlainKey) d.rules e.2)

theorem Definition.readField_draft {d : Definition} {aliases : Option (List String)}
    {e : String × Tree} {g : Raw × Document} {seen : List String} (hg : FieldHeld e g)
    (hknown : e.1 ∈ definitionNames → d.Known aliases e ∧ e.1 ∉ seen)
    (hvalid : e.1 ∉ definitionNames → e.2.Valid) :
    (d.draft aliases seen).readField g = .ok (d.draft aliases (e.1 :: seen)) := by
  obtain ⟨name, t⟩ := e
  obtain ⟨htext, hheld⟩ := hg
  rw [Draft.readField, htext]
  simp only [bind, Except.bind]
  split
  · obtain ⟨⟨hid, -, -, -⟩, hnew⟩ := hknown (by simp [definitionNames])
    simp [draft, single, ensure, hnew, (hid rfl).readString hheld, pure, Except.pure]
  · obtain ⟨⟨-, hname, -, -⟩, hnew⟩ := hknown (by simp [definitionNames])
    simp [draft, single, ensure, hnew, (hname rfl).readString hheld, pure, Except.pure]
  · obtain ⟨⟨-, -, haliases, -⟩, hnew⟩ := hknown (by simp [definitionNames])
    obtain ⟨ns, hns, hlists⟩ := haliases rfl
    have hread := hlists.readList Says.readString hheld
    simp [draft, single, ensure, hnew, readAliases, hread, hns, pure, Except.pure]
  · obtain ⟨⟨-, -, -, hrules⟩, hnew⟩ := hknown (by simp [definitionNames])
    have hread := (hrules rfl).readList WritesRule.read hheld
    simp [draft, single, ensure, hnew, readRules, hread, pure, Except.pure]
  · next hid hname haliases hrules =>
    have hother : name ∉ definitionNames := by
      simp only [definitionNames, List.mem_cons, List.not_mem_nil, or_false, not_or]
      exact ⟨hid, hname, haliases, hrules⟩
    simp [(hvalid hother).skim hheld, draft, Ne.symm hid, Ne.symm hname, Ne.symm haliases,
      Ne.symm hrules, pure, Except.pure]

/-- A definition is read from its fields, in whatever order they come. -/
theorem Definition.foldlM_readField (d : Definition) (aliases : Option (List String))
    {known written : List (String × Tree)} {gs : List (Raw × Document)}
    (hknown : ∀ e ∈ known, d.Known aliases e) (h : Fielded definitionNames known written)
    (hgs : List.Forall₂ FieldHeld written gs)
    (hnames : "id" ∈ known.map (·.1) ∧ "name" ∈ known.map (·.1) ∧ "rules" ∈ known.map (·.1))
    (haliases : aliases = none ∨ "aliases" ∈ known.map (·.1)) :
    gs.foldlM Draft.readField {} = .ok ⟨some d.id, some d.name, aliases, some d.rules⟩ := by
  have hfold := h.foldlM hgs Draft.readField (d.draft aliases)
    fun hg hn => Definition.readField_draft hg fun hmem => ⟨hknown _ (hn hmem).1, (hn hmem).2⟩
  rwa [draft, draft, h.seen (by simp [definitionNames]) (.inr hnames.1),
    h.seen (by simp [definitionNames]) (.inr hnames.2.1),
    h.seen (by simp [definitionNames]) haliases,
    h.seen (by simp [definitionNames]) (.inr hnames.2.2)] at hfold

theorem WritesDefinition.read {d : Definition} {t : Tree} {doc : Document}
    (h : WritesDefinition PlainKey d t) (hd : t.Held doc) : readDefinition doc = .ok d := by
  obtain ⟨ns, id, name, rules, aliases, hns, hid, hname, hrules, haliases, ht⟩ := h
  obtain ⟨gs, written, rfl, hgs, hw⟩ :=
    ht.held (definitionNames_distinct haliases id name rules) hd
  rcases haliases with ⟨rfl, rfl⟩ | ⟨as, rfl, has⟩
  · have hfold := d.foldlM_readField none
      (by simp [Definition.Known, hid, hname, hrules]) hw hgs (by simp) (.inl rfl)
    have hd : (⟨d.id, d.name, .names [], d.rules⟩ : Definition) = d := by rw [← hns]
    rw [readDefinition, hfold]
    exact congrArg Except.ok hd
  · have hfold := d.foldlM_readField (some ns)
      (by simp [Definition.Known, hid, hname, hrules, has]) hw hgs (by simp) (.inr (by simp))
    have hd : (⟨d.id, d.name, .names ns, d.rules⟩ : Definition) = d := by rw [← hns]
    rw [readDefinition, hfold]
    exact congrArg Except.ok hd

theorem Renders.ofJson {d : Definition} {text : String} (h : Renders PlainKey d text) :
    Definition.ofJson text.toUTF8.toList = .ok d := by
  obtain ⟨t, ht, hs⟩ := h
  obtain ⟨doc, hd, htext⟩ := (ht.imp fun _ _ => PlainKey.spelled).valid.ofText hs
  rw [Definition.ofJson, parseDefinition, Text.toList_toUTF8, htext]
  simp only [ht.read hd]
  rfl

end ScopeLexer.Language
