import Mathlib.Data.Finset.Card
import Mathlib.Data.Finset.Dedup
import ScopeLexer.Proofs.Language.Checked
import ScopeLexer.Proofs.Slots

/-! Accesses to a cache. Each of them asks for the lexer of a definition and finds the cache as the
one before it left it. What they leave behind follows from what a single one can do: it gets the
lexer that is kept, or makes one and adds it, or fails and changes nothing. -/

namespace ScopeLexer

open ScopeLexer.Language

namespace Cache

variable {k k' : Cache} {l : Lexer} {key : String} {place : Nat}

/-- A key has this lexer, the one in this place, under every spelling. Whatever definition asks for
it gets it as it is, however lexers are made. -/
structure Keeps (k : Cache) (key : String) (l : Lexer) (place : Nat) : Prop where
  found : ∀ id, keyOf id = key →
    k.get? id = some l ∧ k.contains id = true ∧ k.position? id = some place
  fetched : ∀ make d, d.key = key → k.fetchWith make d = (.ok l, k)

/-- A key has no lexer. A definition that asks for one gets what is made of it. -/
structure Lacks (k : Cache) (key : String) : Prop where
  missing : ∀ id, keyOf id = key → k.get? id = none ∧ k.contains id = false
  made : ∀ make d, d.key = key → (k.fetchWith make d).1 = make d

theorem Keeps.of_found
    (h : ∀ id, keyOf id = key → k.get? id = some l ∧ k.position? id = some place) :
    k.Keeps key l place := by
  refine ⟨fun id hid => ?_, fun make d hd => ?_⟩
  · obtain ⟨hget, hplace⟩ := h id hid
    exact ⟨hget, by rw [contains, hget]; rfl, hplace⟩
  · rw [fetchWith, (h d.id hd).1]

theorem Lacks.of_lookup (h : k.entries.lookup key = none) : k.Lacks key := by
  have hmissing : ∀ id, keyOf id = key → k.get? id = none := fun id hid => by rw [get?, hid, h]
  refine ⟨fun id hid => ⟨hmissing id hid, ?_⟩, fun make d hd => ?_⟩
  · rw [contains, hmissing id hid]
    rfl
  · rw [fetchWith, hmissing d.id hd]
    cases make d <;> rfl

theorem mem_of_lookup (h : k.entries.lookup key = some l) : (key, l) ∈ k.entries := by
  obtain ⟨before, after, hk, -⟩ := List.lookup_eq_some_iff.1 h
  simp [hk]

/-- The lexer of a key is in some place. -/
theorem exists_keeps (h : k.entries.lookup key = some l) : ∃ place, k.Keeps key l place := by
  have hsome : (k.entries.findIdx? (·.1 = key)).isSome := by
    rw [List.findIdx?_isSome]
    exact List.any_eq_true.2 ⟨_, mem_of_lookup h, decide_eq_true rfl⟩
  obtain ⟨place, hplace⟩ := Option.isSome_iff_exists.1 hsome
  refine ⟨place, .of_found fun id hid => ?_⟩
  rw [get?, position?, hid]
  exact ⟨h, hplace⟩

/-- A cache that grows keeps every lexer in its place. -/
theorem Keeps.of_prefix (h : k.Keeps key l place) (hk : k.entries <+: k'.entries) :
    k'.Keeps key l place := by
  obtain ⟨more, hk⟩ := hk
  refine .of_found fun id hid => ?_
  obtain ⟨hget, -, hplace⟩ := h.found id hid
  rw [get?] at hget
  rw [position?] at hplace
  rw [get?, position?, ← hk, List.lookup_append, List.findIdx?_append, hget, hplace]
  exact ⟨rfl, rfl⟩

/-- Every key has one entry, and its lexer has an id with that key. -/
structure Keyed (k : Cache) : Prop where
  distinct : (k.entries.map (·.1)).Nodup
  ids : ∀ p ∈ k.entries, keyOf p.2.id = p.1

theorem Keyed.empty : Keyed .empty := ⟨List.nodup_nil, fun _ hp => nomatch hp⟩

theorem Keyed.id (h : k.Keyed) {id : String} (hl : k.get? id = some l) : keyOf l.id = keyOf id :=
  h.ids (keyOf id, l) (mem_of_lookup hl)

end Cache

/-- A request to a cache for the lexer of a definition, and the cache that it finds. -/
structure Access where
  definition : Definition
  cache : Cache

namespace Access

variable {a : Access} {as bs : List Access} {k k' : Cache}

def key (a : Access) : String := a.definition.key

variable [Regex.Engine]

def result (a : Access) : Except Error Lexer := (a.cache.fetch a.definition).1

/-- The cache that an access leaves. -/
def after (a : Access) : Cache := (a.cache.fetch a.definition).2

def succeeds (a : Access) : Bool := a.result.toBool

/-- The entry that an access adds, if it makes a lexer. -/
def made? (a : Access) : Option (String × Lexer) :=
  if a.cache.contains a.definition.id then none else a.result.toOption.map (a.key, ·)

/-! ### One access -/

/-- An access gets the lexer that is kept, makes one, or fails. -/
theorem cases (a : Access) :
    (∃ l, a.cache.entries.lookup a.key = some l ∧ a.result = .ok l ∧ a.after = a.cache ∧
      a.made? = none) ∨
    (∃ l, a.cache.entries.lookup a.key = none ∧ Lexer.compile a.definition = .ok l ∧
      a.result = .ok l ∧ a.after = ⟨a.cache.entries ++ [(a.key, l)]⟩ ∧
      a.made? = some (a.key, l)) ∨
    ∃ e, a.cache.entries.lookup a.key = none ∧ Lexer.compile a.definition = .error e ∧
      a.result = .error e ∧ a.after = a.cache ∧ a.made? = none := by
  have hlookup : a.cache.entries.lookup a.key = a.cache.get? a.definition.id := rfl
  unfold made? result after Cache.contains Cache.fetch Cache.fetchWith
  rw [hlookup]
  cases a.cache.get? a.definition.id with
  | some l => exact .inl ⟨l, rfl, rfl, rfl, rfl⟩
  | none =>
    cases Lexer.compile a.definition with
    | ok l => exact .inr (.inl ⟨l, rfl, rfl, rfl, rfl, rfl⟩)
    | error e => exact .inr (.inr ⟨e, rfl, rfl, rfl, rfl, rfl⟩)

theorem after_entries (a : Access) : a.after.entries = a.cache.entries ++ a.made?.toList := by
  rcases a.cases with ⟨l, -, -, hafter, hmade⟩ | ⟨l, -, -, -, hafter, hmade⟩ |
      ⟨e, -, -, -, hafter, hmade⟩ <;> rw [hafter, hmade]
  · exact (List.append_nil _).symm
  · rfl
  · exact (List.append_nil _).symm

/-- A lexer handed out is there afterwards. -/
theorem after_lookup {l : Lexer} (h : a.result = .ok l) :
    a.after.entries.lookup a.key = some l := by
  rcases a.cases with ⟨l', hl, hresult, hafter, -⟩ | ⟨l', hl, -, hresult, hafter, -⟩ |
      ⟨e, -, -, hresult, -, -⟩ <;> rw [hresult] at h <;> cases h <;> rw [hafter]
  · exact hl
  · rw [List.lookup_append, hl, List.lookup_cons_self]
    rfl

/-- A failure is one of making a lexer, and leaves the cache as it is. -/
theorem after_of_error {e : Error} (h : a.result = .error e) :
    a.after = a.cache ∧ a.cache.entries.lookup a.key = none := by
  rcases a.cases with ⟨l, -, hresult, -, -⟩ | ⟨l, -, -, hresult, -, -⟩ |
      ⟨e', hl, -, hresult, hafter, -⟩ <;> rw [hresult] at h <;> cases h
  exact ⟨hafter, hl⟩

theorem made?_eq_some {p : String × Lexer} (h : a.made? = some p) :
    p.1 = a.key ∧ a.result = .ok p.2 := by
  rcases a.cases with ⟨l, -, -, -, hmade⟩ | ⟨l, -, -, hresult, -, hmade⟩ |
      ⟨e, -, -, -, -, hmade⟩ <;> rw [hmade] at h <;> cases h
  exact ⟨rfl, hresult⟩

theorem after_keyed (h : a.cache.Keyed) : a.after.Keyed := by
  rcases a.cases with ⟨l, -, -, hafter, -⟩ | ⟨l, hl, hmake, -, hafter, -⟩ |
      ⟨e, -, -, -, hafter, -⟩ <;> rw [hafter]
  · exact h
  · have hnew : ∀ p ∈ a.cache.entries, a.key ≠ p.1 := by
      simpa using List.lookup_eq_none_iff.1 hl
    refine ⟨?_, List.forall_mem_append.2 ⟨h.ids, ?_⟩⟩
    · rw [List.map_append, List.nodup_append]
      refine ⟨h.distinct, List.nodup_singleton _, fun x hx y hy => ?_⟩
      obtain ⟨p, hp, rfl⟩ := List.mem_map.1 hx
      rw [List.mem_singleton.1 hy]
      exact (hnew p hp).symm
    · rw [List.forall_mem_singleton, (Lexer.compile_parts hmake).1]
      rfl
  · exact h

/-! ### Accesses one after the other -/

/-- Each access finds the cache that the one before it leaves. -/
def Chained : Cache → List Access → Cache → Prop
  | k, [], k' => k' = k
  | k, a :: as, k' => a.cache = k ∧ Chained a.after as k'

namespace Chained

theorem append {k'' : Cache} :
    Chained k (as ++ bs) k'' ↔ ∃ k', Chained k as k' ∧ Chained k' bs k'' := by
  induction as generalizing k with
  | nil => simp [Chained]
  | cons a as ih => simp only [List.cons_append, Chained, ih, and_assoc, exists_and_left]

theorem entries (h : Chained k as k') : k'.entries = k.entries ++ as.filterMap made? := by
  induction as generalizing k with
  | nil =>
    obtain rfl : k' = k := h
    exact (List.append_nil _).symm
  | cons a as ih =>
    obtain ⟨rfl, h⟩ := h
    rw [ih h, a.after_entries, List.append_assoc]
    cases hmade : a.made? <;> simp [hmade]

theorem keyed (h : Chained k as k') (hk : k.Keyed) : k'.Keyed := by
  induction as generalizing k with
  | nil =>
    obtain rfl : k' = k := h
    exact hk
  | cons a as ih =>
    obtain ⟨rfl, h⟩ := h
    exact ih h (after_keyed hk)

theorem shows {t : Slots} (h : Chained k as k') (ht : t.Shows k) :
    (t.serve (as.map (·.definition))).Shows k' := by
  induction as generalizing k t with
  | nil =>
    obtain rfl : k' = k := h
    exact ht
  | cons a as ih =>
    obtain ⟨rfl, h⟩ := h
    exact ih h (ht.fetchWith Lexer.compile a.definition).2

/-- A lexer handed out is kept from then on. -/
theorem keeps {l : Lexer} (h : Chained k as k') (ha : a ∈ as) (hl : a.result = .ok l) :
    ∃ place, a.after.Keeps a.key l place ∧ k'.Keeps a.key l place := by
  obtain ⟨before, since, rfl⟩ := List.append_of_mem ha
  obtain ⟨_, -, -, hsince⟩ := append.1 h
  obtain ⟨place, hplace⟩ := Cache.exists_keeps (after_lookup hl)
  exact ⟨place, hplace, hplace.of_prefix ⟨_, hsince.entries.symm⟩⟩

/-- The accesses for a key that come after a lexer was handed out get this lexer, and make none. -/
theorem again (h : Chained k as k') : as.Pairwise fun a b => b.key = a.key →
    ∀ l, a.result = .ok l → b.result = .ok l ∧ b.after = b.cache := by
  induction as generalizing k with
  | nil => exact .nil
  | cons a as ih =>
    obtain ⟨-, h⟩ := h
    refine .cons (fun b hb hkey l hl => ?_) (ih h)
    obtain ⟨before, since, rfl⟩ := List.append_of_mem hb
    obtain ⟨_, hbefore, rfl, -⟩ := append.1 h
    obtain ⟨place, hplace⟩ := Cache.exists_keeps (after_lookup hl)
    have hkeeps : b.cache.Keeps a.key l place := hplace.of_prefix ⟨_, hbefore.entries.symm⟩
    have hfetch : b.cache.fetch b.definition = (.ok l, b.cache) := hkeeps.fetched _ _ hkey
    exact ⟨congrArg Prod.fst hfetch, congrArg Prod.snd hfetch⟩

/-- Accesses for other keys change nothing for a key. -/
theorem lookup_of_ne {key : String} (h : Chained k as k') (hne : ∀ a ∈ as, a.key ≠ key) :
    k'.entries.lookup key = k.entries.lookup key := by
  have hmade : (as.filterMap made?).lookup key = none := by
    refine List.lookup_eq_none_iff.2 fun p hp => ?_
    obtain ⟨a, ha, hmade⟩ := List.mem_filterMap.1 hp
    rw [bne_iff_ne, (made?_eq_some hmade).1]
    exact (hne a ha).symm
  rw [h.entries, List.lookup_append, hmade, Option.or_none]

/-- The lexers of a cache were handed out, since it was new, to accesses for their keys. -/
theorem exists_of_mem {p : String × Lexer} (h : Chained .empty as k) (hp : p ∈ k.entries) :
    ∃ a ∈ as, a.key = p.1 ∧ a.result = .ok p.2 := by
  have hentries : k.entries = as.filterMap made? := h.entries
  obtain ⟨a, ha, hmade⟩ := List.mem_filterMap.1 (hentries ▸ hp)
  obtain ⟨hkey, hresult⟩ := made?_eq_some hmade
  exact ⟨a, ha, hkey.symm, hresult⟩

/-- The keys with a lexer are those for which some access succeeded. -/
theorem mem_keys {key : String} (h : Chained .empty as k) :
    key ∈ k.entries.map (·.1) ↔ ∃ a ∈ as, a.key = key ∧ ∃ l, a.result = .ok l := by
  constructor
  · intro hkey
    obtain ⟨p, hp, rfl⟩ := List.mem_map.1 hkey
    obtain ⟨a, ha, hakey, hresult⟩ := h.exists_of_mem hp
    exact ⟨a, ha, hakey, p.2, hresult⟩
  · rintro ⟨a, ha, rfl, l, hl⟩
    obtain ⟨place, -, hplace⟩ := h.keeps ha hl
    have hlookup : k.entries.lookup a.key = some l := (hplace.found a.definition.id rfl).1
    exact List.mem_map.2 ⟨(a.key, l), Cache.mem_of_lookup hlookup, rfl⟩

end Chained

/-- What a cache has come to after all accesses to it. -/
structure Kept (log : List Access) (k : Cache) : Prop where
  /-- A lexer handed out once is kept. -/
  keeps : ∀ a ∈ log, ∀ l, a.result = .ok l →
    ∃ place, a.after.Keeps a.key l place ∧ k.Keeps a.key l place
  /-- A later access for its key gets the same lexer and makes none, whatever definition it is for. -/
  again : log.Pairwise fun a b => b.key = a.key →
    ∀ l, a.result = .ok l → b.result = .ok l ∧ b.after = b.cache
  /-- A key for which no access got a lexer has none. -/
  lacks : ∀ key, (∀ a ∈ log, a.key = key → ∀ l, a.result ≠ .ok l) → k.Lacks key
  /-- An access that failed left no trace, and if it was the last one for its key, the next one tries
  again. -/
  failed : ∀ before a since, log = before ++ a :: since → ∀ e, a.result = .error e →
    a.after = a.cache ∧ ((∀ b ∈ since, b.key ≠ a.key) → k.Lacks a.key)
  /-- There is an entry for each lexer that was made, and none was made twice for a key. -/
  entries : k.entries = log.filterMap made? ∧ (k.entries.map (·.1)).Nodup
  size : k.size = ((log.filter succeeds).map key).toFinset.card
  ids : ∀ id l, k.get? id = some l → keyOf l.id = keyOf id
  /-- Slots that served the same requests show the cache, though each key has a slot by then for which
  there was an access. -/
  slots : (Slots.serve ∅ (log.map (·.definition))).Shows k ∧
    ∀ key, key ∈ Slots.serve ∅ (log.map (·.definition)) ↔ key ∈ log.map Access.key

theorem succeeds_iff : a.succeeds = true ↔ ∃ l, a.result = .ok l := by
  unfold succeeds
  cases a.result <;> simp [Except.toBool]

theorem Chained.kept (h : Chained .empty as k) : Kept as k where
  keeps a ha l hl := h.keeps ha hl
  again := h.again
  lacks key hkey := by
    refine .of_lookup (List.lookup_eq_none_iff.2 fun p hp => ?_)
    obtain ⟨a, ha, hakey, hresult⟩ := h.exists_of_mem hp
    rw [bne_iff_ne]
    exact fun he => hkey a ha (hakey.trans he.symm) p.2 hresult
  failed before a since hlog e he := by
    obtain ⟨_, -, rfl, hsince⟩ := Chained.append.1 (hlog ▸ h)
    obtain ⟨hafter, hnone⟩ := after_of_error he
    refine ⟨hafter, fun hne => .of_lookup ?_⟩
    rw [hsince.lookup_of_ne hne, hafter, hnone]
  entries := ⟨h.entries, (h.keyed .empty).distinct⟩
  size := by
    have hkeys : (k.entries.map (·.1)).toFinset = ((as.filter succeeds).map key).toFinset := by
      ext key
      simp only [List.mem_toFinset, h.mem_keys, List.mem_map, List.mem_filter, succeeds_iff,
        and_assoc, and_comm (a := ∃ l, _)]
    rw [← hkeys, List.toFinset_card_of_nodup (h.keyed .empty).distinct, List.length_map, Cache.size]
  ids id l := (h.keyed .empty).id
  slots := by
    refine ⟨h.shows .empty, fun key => ?_⟩
    rw [Slots.mem_serve, List.map_map]
    exact or_iff_left (AList.notMem_empty key)

end Access

end ScopeLexer
