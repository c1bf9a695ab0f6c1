import ScopeLexer.Cache

/-! Runs: what a part of a scan leaves behind. A run that fails keeps what it found before, and the
lexers it made and the matches it counted stay. -/

namespace ScopeLexer

/-- How deep languages may be embedded, and how many matches a scan may count. -/
structure Options where
  depthLimit : Nat := 16
  matchLimit : Option Nat := none
  deriving DecidableEq, Repr

/-- Items found, the error that cut the run short if there is one, the cache afterwards, and how
many matches were counted. -/
structure Run (α : Type) where
  items : List α
  error? : Option Error
  cache : Cache
  spent : Nat

namespace Run

variable {α β : Type}

def done (items : List α) (cache : Cache) : Run α := ⟨items, none, cache, 0⟩

def failed (e : Error) (cache : Cache) : Run α := ⟨[], some e, cache, 0⟩

/-- Counts one more match. -/
def spend (r : Run α) : Run α := { r with spent := r.spent + 1 }

/-- Goes on with `next`, which gets the cache and the matches counted so far, unless the run was cut
short. -/
def andThen (r : Run α) (next : Cache → Nat → Run α) : Run α :=
  match r.error? with
  | some _ => r
  | none =>
    let s := next r.cache r.spent
    ⟨r.items ++ s.items, s.error?, s.cache, r.spent + s.spent⟩

/-- Makes other items of all the items found. -/
def mapItems (f : List α → List β) (r : Run α) : Run β := { r with items := f r.items }

/-- The items of a run that was not cut short. -/
def result (r : Run α) : Except Error (List α) :=
  match r.error? with
  | some e => .error e
  | none => .ok r.items

/-- Counts a match after `count` of them, and goes on with `next` if the limit allows it. -/
def counted (o : Options) (cache : Cache) (count : Nat) (next : Run α) : Run α :=
  match o.matchLimit with
  | some limit =>
    if limit ≤ count then (failed (.matchLimitExceeded limit) cache).spend else next.spend
  | none => next.spend

/-! ### Going on -/

variable {r : Run α} {next : Cache → Nat → Run α} {o : Options} {k : Cache} {count : Nat}

theorem andThen_of_some {e : Error} (h : r.error? = some e) : r.andThen next = r := by
  rw [andThen, h]

theorem andThen_of_none (h : r.error? = none) :
    r.andThen next = ⟨r.items ++ (next r.cache r.spent).items, (next r.cache r.spent).error?,
      (next r.cache r.spent).cache, r.spent + (next r.cache r.spent).spent⟩ := by
  rw [andThen, h]

theorem result_eq_ok {items : List α} :
    r.result = .ok items ↔ r.error? = none ∧ r.items = items := by
  unfold result
  cases r.error? <;> simp

theorem andThen_error? (h : (r.andThen next).error? = none) :
    r.error? = none ∧ (next r.cache r.spent).error? = none ∧
      (r.andThen next).items = r.items ++ (next r.cache r.spent).items := by
  cases hr : r.error? with
  | some e => simp [andThen_of_some hr, hr] at h
  | none =>
    rw [andThen_of_none hr] at h
    exact ⟨rfl, h, by rw [andThen_of_none hr]⟩

/-- Whether one more match may be counted does not depend on what comes next. -/
theorem counted_cases (o : Options) (k : Cache) (count : Nat) :
    (∀ s : Run α, counted o k count s = s.spend) ∨
      ∃ limit, o.matchLimit = some limit ∧ limit ≤ count ∧
        ∀ s : Run α, counted o k count s = (failed (.matchLimitExceeded limit) k).spend := by
  unfold counted
  cases o.matchLimit with
  | none => exact .inl fun s => rfl
  | some limit =>
    by_cases h : limit ≤ count
    · exact .inr ⟨limit, rfl, h, fun s => if_pos h⟩
    · exact .inl fun s => if_neg h

theorem counted_eq {s : Run α} (h : (counted o k count s).error? = none) :
    counted o k count s = s.spend := by
  rcases counted_cases o k count with hs | ⟨_, _, _, hs⟩
  · exact hs s
  · rw [hs] at h
    cases h

end Run

end ScopeLexer
