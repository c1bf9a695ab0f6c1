import ScopeLexer.Catalogue
import ScopeLexer.Cache

/-! Which lexers a catalogue gets from a cache. The definitions of a catalogue have a key each, so a
lexer made for one of them is in nobody else's way: the cache grows, and every definition gets what
it would have got before. -/

namespace ScopeLexer

open ScopeLexer.Language

namespace Cache

theorem fetch_fst [Regex.Engine] (k : Cache) (d : Definition) :
    (k.fetch d).1 = match k.get? d.id with
      | some l => .ok l
      | none => Lexer.compile d := by
  unfold fetch fetchWith
  cases k.get? d.id with
  | some l => rfl
  | none => cases Lexer.compile d <;> rfl

theorem get?_append (k : Cache) (key : String) (l : Lexer) (id : String) :
    get? ⟨k.entries ++ [(key, l)]⟩ id = (k.get? id).or (if keyOf id = key then some l else none) := by
  rw [get?, List.lookup_append]
  by_cases h : keyOf id = key
  · simp [get?, h]
  · simp [get?, h, beq_eq_false_iff_ne.2 h, List.lookup_cons]

/-- A lexer fetched once is there, and a fault is still the same. -/
theorem fetch_again [Regex.Engine] (k : Cache) (d : Definition) :
    ((k.fetch d).2.fetch d).1 = (k.fetch d).1 := by
  unfold fetch fetchWith
  cases hg : k.get? d.id with
  | some l => simp [hg]
  | none =>
    cases hm : Lexer.compile d with
    | error e => simp [hg]
    | ok l => simp [get?_append, hg, Definition.key]

theorem get?_fetch_ne [Regex.Engine] {k : Cache} {d e : Definition} (h : e.key ≠ d.key) :
    (k.fetch d).2.get? e.id = k.get? e.id := by
  unfold fetch fetchWith
  cases k.get? d.id with
  | some l => rfl
  | none =>
    cases Lexer.compile d with
    | error e => rfl
    | ok l =>
      have hk : keyOf e.id ≠ d.key := h
      simp [get?_append, hk]

end Cache

namespace Catalogue

theorem find?_mem {c : Catalogue} {name : String} {d : Definition} (h : c.find? name = some d) :
    d ∈ c.definitions := by
  rw [find?, Option.or_eq_some_iff] at h
  rcases h with h | ⟨_, h⟩
  · exact List.mem_of_find?_eq_some h
  · have ha : d ∈ c.answering name := List.mem_of_mem_head? h
    exact (List.mem_filter.1 (List.mem_mergeSort.1 ha)).1

theorem eq_of_key {c : Catalogue} {d e : Definition} (hd : d ∈ c.definitions)
    (he : e ∈ c.definitions) (h : d.key = e.key) : d = e := by
  have hdistinct := c.distinct
  generalize c.definitions = ds at hd he hdistinct
  induction ds with
  | nil => simp at hd
  | cons f fs ih =>
    obtain ⟨hf, hfs⟩ := List.pairwise_cons.1 hdistinct
    rcases List.mem_cons.1 hd with hd | hd <;> rcases List.mem_cons.1 he with he | he
    · rw [hd, he]
    · exact absurd (hd ▸ h) (hf e he)
    · exact absurd (he ▸ h.symm) (hf d hd)
    · exact ih hd he hfs

variable [Regex.Engine]

/-- Two caches give the same lexers, or faults, to the definitions of a catalogue. -/
def Agrees (c : Catalogue) (k k' : Cache) : Prop :=
  ∀ d ∈ c.definitions, (k'.fetch d).1 = (k.fetch d).1

theorem Agrees.refl (c : Catalogue) (k : Cache) : c.Agrees k k := fun _ _ => rfl

theorem Agrees.trans {c : Catalogue} {k₁ k₂ k₃ : Cache} (h : c.Agrees k₁ k₂)
    (h' : c.Agrees k₂ k₃) : c.Agrees k₁ k₃ := fun d hd => (h' d hd).trans (h d hd)

/-- Fetching a lexer for one definition changes nothing for the others. -/
theorem agrees_fetch {c : Catalogue} {d : Definition} (hd : d ∈ c.definitions) (k : Cache) :
    c.Agrees k (k.fetch d).2 := by
  intro e he
  rw [Cache.fetch_fst, Cache.fetch_fst]
  by_cases hkey : e.key = d.key
  · obtain rfl := eq_of_key he hd hkey
    rw [← Cache.fetch_fst, Cache.fetch_again, Cache.fetch_fst]
  · rw [Cache.get?_fetch_ne hkey]

end Catalogue

end ScopeLexer
