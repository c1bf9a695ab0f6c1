import ScopeLexer.Json.Document
import ScopeLexer.Proofs.Json.Numerals

/-! Documents of trees. A text of the pieces of a tree, with blanks between them in any way, makes a
document that holds the tree, with every list and object closed and nothing left over. Reading goes
on from one piece to the next, so a value is followed up to what stands behind it. -/

namespace ScopeLexer.Json

open Text
open Document (Open skimItems skimFields build startValue)

/-! ### Documents that hold trees -/

mutual

/-- A document is of the shape of a tree, with its strings. -/
def Tree.Held : Tree → Document → Prop
  | .null, d => d = .null
  | .boolean b, d => d = .boolean b
  | .number _, d => ∃ n, d = .number n
  | .string w, d => ∃ r : Raw, d = .string r ∧ r.Holds w
  | .list items, d => ∃ ds, d = .list ds .closed ∧ ItemsHeld items ds
  | .object fields, d => ∃ gs, d = .object gs .closed ∧ FieldsHeld fields gs

def ItemsHeld : List Tree → List Document → Prop
  | [], ds => ds = []
  | t :: ts, ds => ∃ d rest, ds = d :: rest ∧ t.Held d ∧ ItemsHeld ts rest

def FieldsHeld : List (List Char × Tree) → List (Raw × Document) → Prop
  | [], gs => gs = []
  | (name, t) :: fields, gs =>
    ∃ key d rest, gs = (key, d) :: rest ∧ key.Holds name ∧ t.Held d ∧ FieldsHeld fields rest

end

mutual

/-- What is written as it may be can be passed over. -/
theorem Tree.Valid.skim {d : Document} : {t : Tree} → t.Valid → t.Held d → d.skim = .ok ()
  | .null, _, h => by
    obtain rfl := h
    rfl
  | .boolean _, _, h => by
    obtain rfl := h
    rfl
  | .number _, _, h => by
    obtain ⟨n, rfl⟩ := h
    rfl
  | .string w, hv, h => by
    obtain ⟨r, rfl, hr⟩ := h
    exact hr.skim hv
  | .list items, hv, h => by
    obtain ⟨ds, rfl, hds⟩ := h
    rw [Document.skim, ItemsValid.skim hv hds]
    rfl
  | .object fields, hv, h => by
    obtain ⟨gs, rfl, hgs⟩ := h
    rw [Document.skim, FieldsValid.skim hv hgs]
    rfl

theorem ItemsValid.skim {ds : List Document} :
    {ts : List Tree} → Tree.ItemsValid ts → ItemsHeld ts ds → skimItems ds = .ok ()
  | [], _, h => by
    obtain rfl := h
    rfl
  | t :: ts, hv, h => by
    obtain ⟨d, rest, rfl, hd, hrest⟩ := h
    rw [skimItems, Tree.Valid.skim hv.1 hd, ItemsValid.skim hv.2 hrest]
    rfl

theorem FieldsValid.skim {gs : List (Raw × Document)} :
    {fields : List (List Char × Tree)} → Tree.FieldsValid fields → FieldsHeld fields gs →
      skimFields gs = .ok ()
  | [], _, h => by
    obtain rfl := h
    rfl
  | (name, t) :: fields, hv, h => by
    obtain ⟨key, d, rest, rfl, hkey, hd, hrest⟩ := h
    rw [skimFields, hkey.skim hv.1, Tree.Valid.skim hv.2.1 hd, FieldsValid.skim hv.2.2 hrest]
    rfl

end

/-! ### Tokens of pieces -/

theorem tokens_cons {b : UInt8} {s rest : Bytes} {t : Token} (hb : isBlank b = false)
    (h : nextToken b s = (t, some rest)) : tokens (b :: s) = t :: tokens rest := by
  rw [tokens, if_neg (by simp [hb])]
  split
  · next h' =>
    rw [h] at h'
    cases h'
    rfl
  · next h' =>
    rw [h] at h'
    cases h'

theorem blank_byte {c : Char} (h : c ∈ [' ', '\n', '\t', '\r']) :
    c.toNat < 0x80 ∧ isBlank (UInt8.ofNat c.toNat) ∧ EndsNumber (UInt8.ofNat c.toNat) := by
  simp only [List.mem_cons, List.not_mem_nil, or_false] at h
  rcases h with rfl | rfl | rfl | rfl <;> decide

theorem tokens_blanks {blanks : List Char} (h : AreBlanks blanks) (s : Bytes) :
    tokens (utf8 blanks ++ s) = tokens s := by
  induction blanks with
  | nil => rfl
  | cons c blanks ih =>
    obtain ⟨hascii, hblank, -⟩ := blank_byte (h c List.mem_cons_self)
    rw [utf8_ascii hascii, List.cons_append, tokens, if_pos hblank]
    exact ih fun d hd => h d (List.mem_cons_of_mem _ hd)

theorem Spaced.tokens_nil {text : List Char} (h : Spaced [] text) : tokens (utf8 text) = [] := by
  cases h with
  | nil h =>
    rw [← List.append_nil (utf8 text), tokens_blanks h]
    simp [tokens]

/-- Blanks before a piece do not count. -/
theorem Spaced.split {p : Piece} {ps : List Piece} {text : List Char}
    (h : Spaced (p :: ps) text) :
    ∃ rest, Spaced ps rest ∧ tokens (utf8 text) = tokens (utf8 p ++ utf8 rest) := by
  cases h with
  | @cons _ _ _ rest hblanks hps =>
    exact ⟨rest, hps, by rw [utf8_append, tokens_blanks hblanks, utf8_append]⟩

/-- A piece that is always the same token. -/
def IsToken (p : Piece) (t : Token) : Prop := ∀ s, tokens (utf8 p ++ s) = t :: tokens s

theorem isToken_listOpen : IsToken ['['] .listOpen := fun _ => tokens_cons (b := 0x5B) rfl rfl

theorem isToken_listClose : IsToken [']'] .listClose := fun _ => tokens_cons (b := 0x5D) rfl rfl

theorem isToken_objectOpen : IsToken ['\x7b'] .objectOpen :=
  fun _ => tokens_cons (b := 0x7B) rfl rfl

theorem isToken_objectClose : IsToken ['\x7d'] .objectClose :=
  fun _ => tokens_cons (b := 0x7D) rfl rfl

theorem isToken_comma : IsToken [','] .comma := fun _ => tokens_cons (b := 0x2C) rfl rfl

theorem isToken_colon : IsToken [':'] .colon := fun _ => tokens_cons (b := 0x3A) rfl rfl

theorem isToken_null : IsToken "null".toList .null := fun _ => tokens_cons (b := 0x6E) rfl rfl

theorem isToken_boolean (b : Bool) :
    IsToken (if b then "true" else "false").toList (.boolean b) := by
  cases b with
  | false => exact fun _ => tokens_cons (b := 0x66) rfl rfl
  | true => exact fun _ => tokens_cons (b := 0x74) rfl rfl

theorem Spaced.token {p : Piece} {ps : List Piece} {text : List Char} {t : Token}
    (h : Spaced (p :: ps) text) (ht : IsToken p t) :
    ∃ rest, Spaced ps rest ∧ tokens (utf8 text) = t :: tokens (utf8 rest) := by
  obtain ⟨rest, hrest, htokens⟩ := h.split
  exact ⟨rest, hrest, htokens.trans (ht _)⟩

theorem Spaced.string {w : List Char} {ps : List Piece} {text : List Char}
    (h : Spaced (quoted w :: ps) text) (hw : IsString w) :
    ∃ r rest, Raw.Holds r w ∧ Spaced ps rest ∧
      tokens (utf8 text) = .string r :: tokens (utf8 rest) := by
  obtain ⟨rest, hrest, htokens⟩ := h.split
  have hquote : utf8 (quoted w) ++ utf8 rest = 0x22 :: (utf8 w ++ 0x22 :: utf8 rest) := by
    rw [quoted, utf8_byte (b := 0x22) (by decide) rfl, utf8_append,
      utf8_byte (b := 0x22) (by decide) rfl, utf8_nil, List.cons_append, List.append_assoc]
    rfl
  refine ⟨⟨utf8 w, (utf8 rest).length + 1⟩, rest, ⟨rfl, Nat.succ_pos _⟩, hrest, ?_⟩
  rw [htokens, hquote]
  refine tokens_cons rfl ?_
  show stringToken _ = _
  rw [stringToken, hw.untilQuote]
  rfl

theorem Spaced.name {name : List Char} {ps : List Piece} {text : List Char}
    (h : Spaced (quoted name :: [':'] :: ps) text) (hn : IsString name) :
    ∃ key rest, Raw.Holds key name ∧ Spaced ps rest ∧
      tokens (utf8 text) = .string key :: .colon :: tokens (utf8 rest) := by
  obtain ⟨key, rest₁, hkey, h₁, hname⟩ := h.string hn
  obtain ⟨rest, hrest, hcolon⟩ := h₁.token isToken_colon
  exact ⟨key, rest, hkey, hrest, by rw [hname, hcolon]⟩

/-- Pieces that a number may stand before: a mark behind a value, or none. -/
def Stops (ps : List Piece) : Prop := ∀ p ∈ ps.head?, p ∈ [[','], [']'], ['\x7d']]

theorem Spaced.endsNumber {ps : List Piece} {text : List Char} (hps : Stops ps)
    (h : Spaced ps text) : ∀ b ∈ (utf8 text).head?, EndsNumber b := by
  have hblank : ∀ {c : Char} {cs : List Char}, c ∈ [' ', '\n', '\t', '\r'] →
      ∀ b ∈ (utf8 (c :: cs)).head?, EndsNumber b := by
    intro c cs hc b hb
    obtain ⟨hascii, -, hends⟩ := blank_byte hc
    rw [utf8_ascii hascii] at hb
    exact Option.some.inj hb ▸ hends
  cases h with
  | nil hblanks =>
    cases text with
    | nil => exact nofun
    | cons c blanks => exact hblank (hblanks c List.mem_cons_self)
  | @cons blanks p ps rest hblanks _ =>
    cases blanks with
    | cons c blanks => exact hblank (hblanks c List.mem_cons_self)
    | nil =>
      intro b hb
      have hp := hps p rfl
      simp only [List.mem_cons, List.not_mem_nil, or_false] at hp
      rcases hp with rfl | rfl | rfl <;>
      · obtain rfl := Option.some.inj hb
        decide

theorem Spaced.number {cs : List Char} {ps : List Piece} {text : List Char}
    (h : Spaced (cs :: ps) text) (hps : Stops ps) (hn : IsNumber cs) :
    ∃ n rest, Spaced ps rest ∧ tokens (utf8 text) = .number n :: tokens (utf8 rest) := by
  obtain ⟨rest, hrest, htokens⟩ := h.split
  obtain ⟨b, t, n, hsplit, hb, hnext⟩ := hn.nextToken (hrest.endsNumber hps)
  exact ⟨n, rest, hrest, by rw [htokens, hsplit, tokens_cons hb hnext]⟩

/-! ### Building -/

/-- From `text` a value is read as `d`, up to `rest`. -/
structure Reads (text rest : List Char) (d : Document) : Prop where
  head : ∃ t ts, tokens (utf8 text) = t :: ts ∧ t ≠ .listClose
  value : ∀ stack, build stack .value (tokens (utf8 text)) =
    build stack (.after d) (tokens (utf8 rest))

variable {text rest : List Char} {d : Document}

theorem Reads.firstItem (h : Reads text rest d) (stack : List Open) :
    build stack .firstItem (tokens (utf8 text)) =
      build (.list [] :: stack) (.after d) (tokens (utf8 rest)) := by
  obtain ⟨t, ts, htokens, ht⟩ := h.head
  rw [← h.value, htokens]
  cases t with
  | listClose => exact absurd rfl ht
  | _ => rfl

theorem Reads.nextItem (h : Reads text rest d) (stack : List Open) (items : List Document) :
    build stack (.nextItem items) (tokens (utf8 text)) =
      build (.list items :: stack) (.after d) (tokens (utf8 rest)) := by
  obtain ⟨t, ts, htokens, ht⟩ := h.head
  rw [← h.value, htokens]
  cases t with
  | listClose => exact absurd rfl ht
  | _ => rfl

theorem reads_token {t : Token} (h : tokens (utf8 text) = t :: tokens (utf8 rest))
    (ht : startValue t = .inl d) (hd : d.isBroken = false) : Reads text rest d where
  head := ⟨t, _, h, by rintro rfl; cases ht; cases hd⟩
  value stack := by
    rw [h, build, ht]
    simp [hd]

theorem stops_items (ts : List Tree) (ps : List Piece) :
    Stops (Tree.itemPieces [[',']] ts ++ [']'] :: ps) := by
  cases ts <;> simp [Stops, Tree.itemPieces]

theorem stops_fields (fields : List (List Char × Tree)) (ps : List Piece) :
    Stops (Tree.fieldPieces [[',']] fields ++ ['\x7d'] :: ps) := by
  cases fields <;> simp [Stops, Tree.fieldPieces]

-- By induction on the tree, with any pieces `ps` behind it: the stack of open lists and objects is
-- left as it was found, so what is read inside of one does not depend on what stands around it.
-- Only a number is not over by itself, which is what `Stops` is for.
mutual

/-- The pieces of a tree are read as a document that holds it. -/
theorem Tree.Valid.reads {ps : List Piece} {text : List Char} (hps : Stops ps) :
    {t : Tree} → t.Valid → Spaced (t.pieces ++ ps) text →
      ∃ d rest, t.Held d ∧ Spaced ps rest ∧ Reads text rest d
  | .null, _, h => by
    obtain ⟨rest, hrest, htokens⟩ := h.token isToken_null
    exact ⟨.null, rest, rfl, hrest, reads_token htokens rfl rfl⟩
  | .boolean b, _, h => by
    obtain ⟨rest, hrest, htokens⟩ := h.token (isToken_boolean b)
    exact ⟨.boolean b, rest, rfl, hrest, reads_token htokens rfl rfl⟩
  | .number cs, hv, h => by
    obtain ⟨n, rest, hrest, htokens⟩ := Spaced.number h hps hv
    exact ⟨.number n, rest, ⟨n, rfl⟩, hrest, reads_token htokens rfl rfl⟩
  | .string w, hv, h => by
    obtain ⟨r, rest, hr, hrest, htokens⟩ := Spaced.string h hv
    exact ⟨.string r, rest, ⟨r, rfl, hr⟩, hrest, reads_token htokens rfl rfl⟩
  | .list [], _, h => by
    obtain ⟨rest₁, h₁, htokens₁⟩ := h.token isToken_listOpen
    obtain ⟨rest, hrest, htokens⟩ := h₁.token isToken_listClose
    refine ⟨.list [] .closed, rest, ⟨[], rfl, rfl⟩, hrest, ⟨_, _, htokens₁, nofun⟩, fun stack => ?_⟩
    rw [htokens₁, htokens]
    rfl
  | .list (t :: ts), hv, h => by
    rw [Tree.pieces, Tree.itemPieces, List.nil_append, List.cons_append, List.cons_append,
      List.append_assoc, List.append_assoc] at h
    obtain ⟨rest₁, h₁, htokens⟩ := h.token isToken_listOpen
    obtain ⟨d, rest₂, hd, h₂, hreads⟩ := Tree.Valid.reads (stops_items ts ps) hv.1 h₁
    obtain ⟨ds, rest, hds, hrest, hbuild⟩ := ItemsValid.reads d [] hv.2 h₂
    refine ⟨.list (d :: ds) .closed, rest, ⟨d :: ds, rfl, d, ds, rfl, hd, hds⟩, hrest,
      ⟨_, _, htokens, nofun⟩, fun stack => ?_⟩
    have hopen : build stack .value (.listOpen :: tokens (utf8 rest₁)) =
      build stack .firstItem (tokens (utf8 rest₁)) := rfl
    rw [htokens, hopen, hreads.firstItem, hbuild]
    rfl
  | .object [], _, h => by
    obtain ⟨rest₁, h₁, htokens₁⟩ := h.token isToken_objectOpen
    obtain ⟨rest, hrest, htokens⟩ := h₁.token isToken_objectClose
    refine ⟨.object [] .closed, rest, ⟨[], rfl, rfl⟩, hrest, ⟨_, _, htokens₁, nofun⟩,
      fun stack => ?_⟩
    rw [htokens₁, htokens]
    rfl
  | .object ((name, t) :: fields), hv, h => by
    rw [Tree.pieces, Tree.fieldPieces] at h
    simp only [List.nil_append, List.cons_append, List.append_assoc] at h
    obtain ⟨rest₁, h₁, htokens⟩ := h.token isToken_objectOpen
    obtain ⟨key, rest₂, hkey, h₂, hname⟩ := h₁.name hv.1
    obtain ⟨d, rest₃, hd, h₃, hreads⟩ := Tree.Valid.reads (stops_fields fields ps) hv.2.1 h₂
    obtain ⟨gs, rest, hgs, hrest, hbuild⟩ := FieldsValid.reads key d [] hv.2.2 h₃
    refine ⟨.object ((key, d) :: gs) .closed, rest, ⟨_, rfl, key, d, gs, rfl, hkey, hd, hgs⟩, hrest,
      ⟨_, _, htokens, nofun⟩, fun stack => ?_⟩
    have hopen : build stack .value
        (.objectOpen :: .string key :: .colon :: tokens (utf8 rest₂)) =
      build (.object [] key :: stack) .value (tokens (utf8 rest₂)) := rfl
    rw [htokens, hname, hopen, hreads.value, hbuild]
    rfl

-- `done` holds the items read before, the last one first, and `d₀` the one just read, which goes in
-- only at the comma or the bracket behind it.
theorem ItemsValid.reads {ps : List Piece} {text : List Char} (d₀ : Document)
    (done : List Document) :
    {ts : List Tree} → Tree.ItemsValid ts →
      Spaced (Tree.itemPieces [[',']] ts ++ [']'] :: ps) text →
      ∃ ds rest, ItemsHeld ts ds ∧ Spaced ps rest ∧ ∀ stack,
        build (.list done :: stack) (.after d₀) (tokens (utf8 text)) =
          build stack (.after (.list ((d₀ :: done).reverse ++ ds) .closed)) (tokens (utf8 rest))
  | [], _, h => by
    obtain ⟨rest, hrest, htokens⟩ := h.token isToken_listClose
    refine ⟨[], rest, rfl, hrest, fun stack => ?_⟩
    rw [htokens, List.append_nil]
    rfl
  | t :: ts, hv, h => by
    rw [Tree.itemPieces, List.append_assoc, List.append_assoc] at h
    obtain ⟨rest₁, h₁, htokens⟩ := h.token isToken_comma
    obtain ⟨d, rest₂, hd, h₂, hreads⟩ := Tree.Valid.reads (stops_items ts ps) hv.1 h₁
    obtain ⟨ds, rest, hds, hrest, hbuild⟩ := ItemsValid.reads d (d₀ :: done) hv.2 h₂
    refine ⟨d :: ds, rest, ⟨d, ds, rfl, hd, hds⟩, hrest, fun stack => ?_⟩
    have hcomma : build (.list done :: stack) (.after d₀) (.comma :: tokens (utf8 rest₁)) =
      build stack (.nextItem (d₀ :: done)) (tokens (utf8 rest₁)) := rfl
    rw [htokens, hcomma, hreads.nextItem, hbuild, List.reverse_cons (a := d), List.append_assoc]
    rfl

theorem FieldsValid.reads {ps : List Piece} {text : List Char} (key₀ : Raw) (d₀ : Document)
    (done : List (Raw × Document)) :
    {fields : List (List Char × Tree)} → Tree.FieldsValid fields →
      Spaced (Tree.fieldPieces [[',']] fields ++ ['\x7d'] :: ps) text →
      ∃ gs rest, FieldsHeld fields gs ∧ Spaced ps rest ∧ ∀ stack,
        build (.object done key₀ :: stack) (.after d₀) (tokens (utf8 text)) =
          build stack (.after (.object (((key₀, d₀) :: done).reverse ++ gs) .closed))
            (tokens (utf8 rest))
  | [], _, h => by
    obtain ⟨rest, hrest, htokens⟩ := h.token isToken_objectClose
    refine ⟨[], rest, rfl, hrest, fun stack => ?_⟩
    rw [htokens, List.append_nil]
    rfl
  | (name, t) :: fields, hv, h => by
    rw [Tree.fieldPieces] at h
    simp only [List.nil_append, List.cons_append, List.append_assoc] at h
    obtain ⟨rest₁, h₁, htokens⟩ := h.token isToken_comma
    obtain ⟨key, rest₂, hkey, h₂, hname⟩ := h₁.name hv.1
    obtain ⟨d, rest₃, hd, h₃, hreads⟩ := Tree.Valid.reads (stops_fields fields ps) hv.2.1 h₂
    obtain ⟨gs, rest, hgs, hrest, hbuild⟩ := FieldsValid.reads key d ((key₀, d₀) :: done) hv.2.2 h₃
    refine ⟨(key, d) :: gs, rest, ⟨key, d, gs, rfl, hkey, hd, hgs⟩, hrest, fun stack => ?_⟩
    have hcomma : build (.object done key₀ :: stack) (.after d₀)
        (.comma :: .string key :: .colon :: tokens (utf8 rest₂)) =
      build (.object ((key₀, d₀) :: done) key :: stack) .value (tokens (utf8 rest₂)) := rfl
    rw [htokens, hname, hcomma, hreads.value, hbuild, List.reverse_cons (a := (key, d)),
      List.append_assoc]
    rfl

end

/-- A text of a valid tree, with nothing else in it, is a document that holds the tree. -/
theorem Tree.Valid.ofText {t : Tree} (ht : t.Valid) {text : List Char} (h : Spaced t.pieces text) :
    ∃ d, t.Held d ∧ Document.ofText (utf8 text) = (d, false) := by
  rw [← List.append_nil t.pieces] at h
  obtain ⟨d, rest, hd, hrest, hreads⟩ := ht.reads (by simp [Stops]) h
  refine ⟨d, hd, ?_⟩
  rw [Document.ofText, hreads.value, hrest.tokens_nil]
  rfl

end ScopeLexer.Json
