import Mathlib.Data.List.AList
import ScopeLexer.Proofs.Cache

/-! Slots. A cache may keep its lexers in slots: the first request for a key opens a slot, and the
slot stays empty until a lexer is made for the key. Empty slots do not show, whichever requests left
them behind. -/

namespace ScopeLexer

open ScopeLexer.Language

/-- Slots by key, some of them empty. -/
abbrev Slots := AList fun _ : String => Option Lexer

namespace Slots

def get? (t : Slots) (id : String) : Option Lexer := (t.lookup (keyOf id)).join

/-- How many slots are full. -/
def size (t : Slots) : Nat := t.entries.countP (·.2.isSome)

/-- Opens the slot of a key, unless there is one. -/
def opened (t : Slots) (key : String) : Slots := if key ∈ t then t else t.insert key none

/-- The lexer in the slot of a definition's key, which is opened first; if it is empty, a lexer is
made and put there. -/
def fetchWith (make : Definition → Except Error Lexer) (t : Slots) (d : Definition) :
    Except Error Lexer × Slots :=
  let t := t.opened d.key
  match t.get? d.id with
  | some l => (.ok l, t)
  | none =>
    match make d with
    | .ok l => (.ok l, t.insert d.key (some l))
    | .error e => (.error e, t)

/-- The slots after requests for definitions. -/
def serve [Regex.Engine] (t : Slots) (ds : List Definition) : Slots :=
  ds.foldl (fun t d => (t.fetchWith Lexer.compile d).2) t

variable {t : Slots} {k : Cache} {key : String}

/-- Filling an empty slot, or opening one, counts only what is put there. -/
theorem size_insert (h : (t.lookup key).join = none) (l? : Option Lexer) :
    size (t.insert key l?) = t.size + l?.toList.length := by
  have hrest : (t.entries.kerase key).countP (·.2.isSome) = t.size := by
    by_cases hkey : key ∈ t.keys
    · obtain ⟨slot, before, after, -, ht, herase⟩ := List.exists_of_kerase hkey
      have hslot : t.lookup key = some slot := by
        rw [AList.mem_lookup_iff.2]
        simp [ht]
      obtain rfl : slot = none := by simpa [hslot] using h
      rw [herase, size, ht]
      simp [List.countP_append]
    · rw [List.kerase_of_notMem_keys hkey, size]
  rw [size, AList.entries_insert, List.countP_cons, hrest]
  cases l? <;> rfl

theorem lookup_opened (t : Slots) (key key' : String) :
    ((t.opened key).lookup key').join = (t.lookup key').join := by
  unfold opened
  split
  · rfl
  · next hnew =>
    by_cases h : key' = key
    · rw [h, AList.lookup_insert, AList.lookup_eq_none.2 hnew]
      rfl
    · rw [AList.lookup_insert_ne h]

theorem size_opened (t : Slots) (key : String) : (t.opened key).size = t.size := by
  unfold opened
  split
  · rfl
  · next hnew =>
    rw [size_insert (by rw [AList.lookup_eq_none.2 hnew]; rfl)]
    rfl

/-- The full slots are the entries of a cache. -/
structure Shows (t : Slots) (k : Cache) : Prop where
  lookup : ∀ key, (t.lookup key).join = k.entries.lookup key
  size : t.size = k.size

theorem Shows.empty : Shows ∅ .empty := ⟨fun _ => rfl, rfl⟩

theorem Shows.get? (h : t.Shows k) (id : String) : t.get? id = k.get? id := h.lookup (keyOf id)

theorem Shows.opened (h : t.Shows k) (key : String) : (t.opened key).Shows k :=
  ⟨fun key' => (t.lookup_opened key key').trans (h.lookup key'),
    (t.size_opened key).trans h.size⟩

theorem Shows.insert (h : t.Shows k) (hkey : k.entries.lookup key = none) (l : Lexer) :
    Shows (t.insert key (some l)) ⟨k.entries ++ [(key, l)]⟩ := by
  refine ⟨fun key' => ?_, ?_⟩
  · rw [List.lookup_append]
    by_cases he : key' = key
    · rw [he, AList.lookup_insert, hkey, List.lookup_cons_self]
      rfl
    · simp [AList.lookup_insert_ne he, h.lookup key', List.lookup_cons, beq_eq_false_iff_ne.2 he]
  · rw [size_insert ((h.lookup key).trans hkey), h.size, Cache.size, Cache.size, List.length_append]
    rfl

/-- Slots answer a request as the cache does, and show the cache as it is afterwards. -/
theorem Shows.fetchWith (h : t.Shows k) (make : Definition → Except Error Lexer) (d : Definition) :
    (t.fetchWith make d).1 = (k.fetchWith make d).1 ∧
      (t.fetchWith make d).2.Shows (k.fetchWith make d).2 := by
  have hopened := h.opened d.key
  unfold Slots.fetchWith Cache.fetchWith
  simp only [hopened.get?]
  cases hg : k.get? d.id with
  | some l => exact ⟨rfl, hopened⟩
  | none =>
    cases make d with
    | error e => exact ⟨rfl, hopened⟩
    | ok l => exact ⟨rfl, hopened.insert hg l⟩

/-- Once asked for, a key has a slot for good. -/
theorem mem_fetchWith {make : Definition → Except Error Lexer} {d : Definition} :
    key ∈ (t.fetchWith make d).2 ↔ key = d.key ∨ key ∈ t := by
  have hopened : key ∈ t.opened d.key ↔ key = d.key ∨ key ∈ t := by
    unfold Slots.opened
    split
    · next hold => exact ⟨.inr, fun h => h.elim (fun he => he ▸ hold) id⟩
    · rw [AList.mem_insert]
  unfold Slots.fetchWith
  simp only
  cases (t.opened d.key).get? d.id with
  | some l => exact hopened
  | none =>
    cases make d with
    | error e => exact hopened
    | ok l =>
      rw [AList.mem_insert, hopened]
      exact or_iff_right_of_imp .inl

theorem mem_serve [Regex.Engine] {ds : List Definition} :
    key ∈ t.serve ds ↔ key ∈ ds.map (·.key) ∨ key ∈ t := by
  induction ds generalizing t with
  | nil => simp [serve]
  | cons d ds ih =>
    have hstep : t.serve (d :: ds) = (t.fetchWith Lexer.compile d).2.serve ds := rfl
    rw [hstep, ih, mem_fetchWith, List.map_cons, List.mem_cons, or_left_comm, or_assoc]

end Slots

end ScopeLexer
