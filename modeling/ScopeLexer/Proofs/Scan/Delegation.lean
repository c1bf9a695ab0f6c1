import Mathlib.Algebra.GroupWithZero.Nat
import Mathlib.Data.List.Infix
import ScopeLexer.Proofs.Scan.Alike
import ScopeLexer.Proofs.Scan.Call
import ScopeLexer.Regex.Search
import ScopeLexer.Session

/-! Delegation. A part of a match that is in another language gets the scopes that a scanner of that
language would find in the text of the part alone. The scanner has fewer levels left, by those that
are open around the part; this shows only in the number in the error when the levels run out. -/

namespace ScopeLexer

open ScopeLexer.Language Regex

/-- An error with another depth limit in it, if it has one. -/
def Error.atLimit (limit : Nat) : Error → Error
  | .nestingTooDeep _ => .nestingTooDeep limit
  | e => e

theorem Renames.atLimit (o o' : Options) : Renames (Error.atLimit o'.depthLimit) o o' where
  deep := rfl
  other e he := by
    cases e with
    | nestingTooDeep n => exact absurd rfl (he n)
    | _ => rfl

/-- The root scopes of chunks that follow each other: those of a chunk are moved by the sizes of all
chunks before it. -/
def Chunk.rootsInPlace (ds : List Chunk) : List Scope :=
  (ds.zip ds.inits).flatMap fun (d, before) => d.scopes.map (Scope.shift (before.map size).sum)

theorem Chunk.scopesFrom_eq (offset : Nat) (ds : List Chunk) :
    scopesFrom offset ds = (ds.zip ds.inits).flatMap fun (d, before) =>
      d.scopes.map (Scope.shift (offset + (before.map size).sum)) := by
  induction ds generalizing offset with
  | nil => rfl
  | cons d ds ih =>
    rw [scopesFrom, ih, List.inits_cons, List.zip_cons_cons, List.flatMap_cons, List.zip_map_right,
      List.flatMap_map]
    simp only [List.map_nil, List.sum_nil, Nat.add_zero, Prod.map, id, List.map_cons, List.sum_cons,
      Nat.add_assoc]

theorem Chunk.rootsInPlace_eq (ds : List Chunk) : rootsInPlace ds = scopesFrom 0 ds := by
  simp only [scopesFrom_eq, Nat.zero_add, rootsInPlace]

namespace Scan

variable [Engine]

/-- How a run at some depth runs other languages: one deeper, if the limit allows it. -/
def embeddingAt (c : Catalogue) (o : Options) (depth : Nat) : Embed :=
  if o.depthLimit ≤ depth then refused o
  else embedded c (scan c o (o.depthLimit - (depth + 1)))

/-- The run at some depth has as many levels left as the limit is above it. -/
theorem scan_at_depth (c : Catalogue) (o : Options) (depth : Nat) (l : Lexer) (text : Text)
    (k : Cache) (count : Nat) : scan c o (o.depthLimit - depth) l text k count =
      follow (embeddingAt c o depth) o l text (l.course text) k count := by
  rw [scan_eq_follow, embeddingAt]
  split
  · next h => rw [Nat.sub_eq_zero_of_le h, embedding]
  · next h =>
    have hlevels : o.depthLimit - depth = o.depthLimit - (depth + 1) + 1 := by omega
    rw [hlevels, embedding]

/-- The scopes that a run at some depth gets for a text in the language of some name. They count
from the start of that text. -/
def delegated (c : Catalogue) (o : Options) (depth : Nat) (name : String) (text : Text) (k : Cache)
    (count : Nat) : Run Scope :=
  (embeddingAt c o depth name text k count).mapItems (Chunk.scopesFrom 0)

/-- A part in another language has these scopes, moved to the place of the part. -/
theorem partScopes_language (c : Catalogue) (o : Options) (depth : Nat) {text : Text} (start : Nat)
    (part : Span text.size) (name : String) (k : Cache) (count : Nat) :
    partScopes (embeddingAt c o depth) text start part (.language name) k count =
      (delegated c o depth name (text.extract part.start part.stop) k count).mapItems
        (·.map (Scope.shift (text.width start part.start))) := rfl

end Scan

/-- Without a match limit, what a run at some depth gets for a text in another language is what a
new scanner with the remaining levels finds in it: the same scopes, each at its place in the text,
or the same error. The two differ in the limit that they report as exceeded. -/
theorem delegated_alone [Engine] (c : Catalogue) (k : Cache) (o : Options)
    (hlimit : o.matchLimit = none) {depth : Nat} (hdepth : depth < o.depthLimit) {name : String}
    {d : Definition} {l : Lexer} (hfind : c.find? name = some d) (hlexer : (k.fetch d).1 = .ok l)
    (source : String) (count : Nat) :
    let alone : Scanner := ⟨c, { o with depthLimit := o.depthLimit - depth - 1 }, (k.fetch d).2, 0⟩
    let r := (Scan.delegated c o depth name (Text.ofString source) k count).result
    match (alone.scan l source).1.result with
    | .ok ds => r = .ok (Chunk.rootsInPlace ds)
    | .error (.nestingTooDeep limit) =>
      limit = o.depthLimit - depth - 1 ∧ r = .error (.nestingTooDeep o.depthLimit)
    | .error e => r = .error e := by
  intro alone r
  -- the smaller scan, once beside the one inside the run and once beside itself
  have hk := Catalogue.Agrees.refl c (k.fetch d).2
  have hinner : (alone.scan l source).1.Alike c (Error.atLimit o.depthLimit)
      (scan c o (o.depthLimit - depth - 1) l (Text.ofString source) (k.fetch d).2 count) :=
    scan_alike (.atLimit alone.options o) _ l _ hk ⟨rfl, .inl hlimit⟩
  have hself : (alone.scan l source).1.Alike c (Error.atLimit alone.options.depthLimit)
      (alone.scan l source).1 :=
    scan_alike (.atLimit alone.options alone.options) _ l _ hk ⟨rfl, .inr rfl⟩
  have hr : r = ((scan c o (o.depthLimit - depth - 1) l (Text.ofString source) (k.fetch d).2
      count).mapItems (Chunk.scopesFrom 0)).result := by
    have hopen : (k.fetch d) = (.ok l, (k.fetch d).2) := Prod.ext hlexer rfl
    simp only [r, Scan.delegated, Scan.embeddingAt, Nat.not_le.2 hdepth, if_false, Scan.embedded,
      hfind]
    rw [hopen]
    rfl
  have hitems := hinner.items
  have herror := hinner.error?
  have hlimits := hself.error?
  rw [hr, Run.result, Run.result, Run.mapItems, hitems, herror]
  cases h : (alone.scan l source).1.error? with
  | none => exact congrArg Except.ok (Chunk.rootsInPlace_eq _).symm
  | some e =>
    rw [h] at hlimits
    cases e with
    | nestingTooDeep n => exact ⟨Error.nestingTooDeep.inj (Option.some.inj hlimits), rfl⟩
    | _ => rfl

/-- Brackets with text in brackets inside. -/
def brackets : Definition :=
  ⟨"brackets", "Brackets", .names [],
    [⟨"\\[(.*)\\]", .ofList [(0, .scope "Pair"), (1, .language "Brackets")]⟩]⟩

/-- What a text at depth one of three would be scanned with alone. -/
def brackets.scanner : Scanner := ⟨.ofList [brackets], ⟨1, none⟩, (Cache.empty.fetch brackets).2, 0⟩

/-- There is room for one more language inside the delegated one, not for two. -/
theorem delegated_alone_brackets : ∃ l ds, Lexer.compile brackets = .ok l ∧
    (brackets.scanner.scan l "é[y]").1.result = .ok ds ∧
    (Scan.delegated (.ofList [brackets]) ⟨3, none⟩ 1 "Brackets" (Text.ofString "é[y]") .empty
      5).result = .ok (Chunk.rootsInPlace ds) ∧
    (Chunk.rootsInPlace ds).map (fun s => (s.name, s.start, s.length)) = [("Pair", 2, 3)] ∧
    (brackets.scanner.scan l "[[y]]").1.result = .error (.nestingTooDeep 1) ∧
    (Scan.delegated (.ofList [brackets]) ⟨3, none⟩ 1 "Brackets" (Text.ofString "[[y]]") .empty
      5).result = .error (.nestingTooDeep 3) := by
  have hscan : (Lexer.compile brackets).toOption.any fun l =>
      (brackets.scanner.scan l "é[y]").1.result.toOption.any (fun ds =>
        (Chunk.rootsInPlace ds).map (fun s => (s.name, s.start, s.length)) = [("Pair", 2, 3)]) &&
      (brackets.scanner.scan l "[[y]]").1.error? = some (.nestingTooDeep 1) := by
    decide +kernel
  obtain ⟨l, hl, hscan⟩ := exists_ok_of_any hscan
  rw [Bool.and_eq_true, decide_eq_true_eq] at hscan
  obtain ⟨ds, hok, hroots⟩ := exists_ok_of_any hscan.1
  have herror : (brackets.scanner.scan l "[[y]]").1.result = .error (.nestingTooDeep 1) := by
    rw [Run.result, hscan.2]
  have hfind : (Catalogue.ofList [brackets]).find? "Brackets" = some brackets := rfl
  have hlexer : (Cache.empty.fetch brackets).1 = .ok l := by
    rw [Cache.fetch_fst]
    exact hl
  have halone := fun source => delegated_alone (.ofList [brackets]) .empty ⟨3, none⟩ rfl
    (show 1 < 3 by decide) hfind hlexer source 5
  have hshallow := halone "é[y]"
  have hdeep := halone "[[y]]"
  simp only [Nat.add_one_sub_one] at hshallow hdeep
  rw [brackets.scanner] at hok herror
  rw [hok] at hshallow
  rw [herror] at hdeep
  exact ⟨l, ds, hl, hok, hshallow, of_decide_eq_true hroots, herror, hdeep.2⟩

end ScopeLexer
