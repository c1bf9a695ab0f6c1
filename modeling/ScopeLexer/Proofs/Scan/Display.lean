import ScopeLexer.Proofs.Scan.Containment
import ScopeLexer.Proofs.Session
import ScopeLexer.Scan.Display

/-! Coloured text. The tokens of a chunk cut its text at characters, one piece behind the other, and
the chunks of a scan cover its source. So the source is what is left of the coloured text when the
control sequences around the pieces are taken away. -/

namespace ScopeLexer

open ScopeLexer.Language Regex

/-! ### Pieces -/

theorem charactersBetween_of_le {start stop offset : Nat} {cs : List Char} (h : stop ≤ offset) :
    charactersBetween start stop offset cs = [] := by
  induction cs generalizing offset with
  | nil => rfl
  | cons c cs ih =>
    rw [charactersBetween, if_neg (by omega), ih (by omega)]
    rfl

/-- The characters before `mid` and those from there on. -/
theorem charactersBetween_append {start mid stop offset : Nat} {cs : List Char} (h : start ≤ mid)
    (h' : mid ≤ stop) :
    charactersBetween start mid offset cs ++ charactersBetween mid stop offset cs =
      charactersBetween start stop offset cs := by
  induction cs generalizing offset with
  | nil => rfl
  | cons c cs ih =>
    by_cases hmid : offset < mid
    · have hsecond : ¬(mid ≤ offset ∧ offset < stop) := by omega
      have hfirst : (start ≤ offset ∧ offset < mid) ↔ (start ≤ offset ∧ offset < stop) := by omega
      simp only [charactersBetween, if_neg hsecond, hfirst, List.nil_append, List.append_assoc]
      rw [ih]
    · have hsecond : (mid ≤ offset ∧ offset < stop) ↔ (start ≤ offset ∧ offset < stop) := by omega
      have hlater : charactersBetween start mid (offset + c.utf8Size) cs = [] :=
        charactersBetween_of_le (by omega)
      rw [charactersBetween_of_le (by omega), List.nil_append]
      simp only [charactersBetween, hsecond]
      rw [← ih, hlater, List.nil_append]

/-- The characters before the one with number `i`. -/
theorem charactersBetween_take {start offset : Nat} (h : start ≤ offset) (cs : List Char) (i : Nat) :
    charactersBetween start (offset + (String.ofList (cs.take i)).utf8ByteSize) offset cs =
      cs.take i := by
  induction cs generalizing offset i with
  | nil => simp [charactersBetween]
  | cons c cs ih =>
    cases i with
    | zero => exact charactersBetween_of_le (by simp)
    | succ i =>
      have hc : 0 < c.utf8Size := c.utf8Size_pos
      have hstop : offset + (String.ofList ((c :: cs).take (i + 1))).utf8ByteSize =
          offset + c.utf8Size + (String.ofList (cs.take i)).utf8ByteSize := by
        simp [Nat.add_assoc]
      rw [hstop, charactersBetween, if_pos (by omega), ih (by omega)]
      rfl

namespace Chunk

variable {d : Chunk}

theorem piece_append {start mid stop : Nat} (h : start ≤ mid) (h' : mid ≤ stop) :
    d.piece start mid ++ d.piece mid stop = d.piece start stop := by
  rw [piece, piece, ← String.ofList_append, charactersBetween_append h h']
  rfl

theorem piece_self (x : Nat) : d.piece x x = "" := by
  have hnone : ∀ offset cs, charactersBetween x x offset cs = [] := by
    intro offset cs
    induction cs generalizing offset with
    | nil => rfl
    | cons c cs ih =>
      rw [charactersBetween, if_neg (by omega), ih]
      rfl
  rw [piece, hnone]

theorem piece_zero (i : Nat) :
    d.piece 0 ((Text.ofString d.text).offset i) = (Text.ofString d.text).slice 0 i := by
  have htake : ((Text.ofString d.text).slice 0 i).toList = d.text.toList.take i := by
    rw [Text.toList_slice]
    simp [Text.ofString]
  have hoffset : (Text.ofString d.text).offset i =
      0 + (String.ofList (d.text.toList.take i)).utf8ByteSize := by
    rw [Nat.zero_add, ← htake, String.ofList_toList]
    rfl
  apply String.toList_injective
  rw [piece, String.toList_ofList, hoffset, charactersBetween_take (Nat.le_refl 0), htake]

/-- A piece between two characters is the slice between them. -/
theorem piece_offset {i j : Nat} (h : i ≤ j) :
    d.piece ((Text.ofString d.text).offset i) ((Text.ofString d.text).offset j) =
      (Text.ofString d.text).slice i j := by
  have hpiece := d.piece_append (Nat.zero_le _) (Text.offset_mono (Text.ofString d.text) h)
  rw [piece_zero, piece_zero, ← Text.slice_append _ (Nat.zero_le i) h] at hpiece
  exact (String.append_right_inj _).1 hpiece

theorem piece_all (d : Chunk) : d.piece 0 d.size = d.text := by
  have hsize : d.size = (Text.ofString d.text).offset (Text.ofString d.text).size :=
    (Text.offset_size d.text).symm
  rw [hsize, piece_zero, Text.slice_all]

/-- Pieces between neighbouring cuts, one after the other. -/
theorem join_pieces_between {x : Nat} {xs : List Nat} (h : (x :: xs).Pairwise (· < ·)) :
    String.join (((x :: xs).zip xs).map fun (a, b) => d.piece a b) =
      d.piece x ((x :: xs).getLast (List.cons_ne_nil x xs)) := by
  induction xs generalizing x with
  | nil => exact (piece_self x).symm
  | cons y ys ih =>
    obtain ⟨hx, hys⟩ := List.pairwise_cons.1 h
    have hxy : x ≤ y := Nat.le_of_lt (hx y List.mem_cons_self)
    have hlast : y ≤ (y :: ys).getLast (List.cons_ne_nil y ys) :=
      (hys.imp Nat.le_of_lt).rel_getLast List.mem_cons_self
    rw [List.zip_cons_cons, List.map_cons, String.join_cons, ih hys,
      List.getLast_cons (List.cons_ne_nil y ys)]
    exact piece_append hxy hlast

/-- The pieces of a chunk, one after the other, are its text, whatever scopes it has. -/
theorem join_pieces (d : Chunk) : String.join (d.pieces.map (·.1)) = d.text := by
  obtain ⟨xs, hcuts, hlast⟩ := Scope.cuts_ends d.scopes d.size
  have hinc := Scope.cuts_increasing d.scopes d.size
  have hpieces : d.pieces.map (·.1) = ((0 :: xs).zip xs).map fun (a, b) => d.piece a b := by
    rw [pieces, tokens, Scope.flatten, hcuts, List.map_map, List.map_map]
    rfl
  rw [hcuts] at hinc
  rw [hpieces, join_pieces_between hinc, hlast, piece_all]

/-- A piece that begins and ends with a character stands at its place in the text. -/
theorem exists_around {start stop : Nat} (h : Fits d.text start stop) : ∃ before after,
    d.text = before ++ d.piece start stop ++ after ∧ before.utf8ByteSize = start ∧
      d.piece start stop ≠ "" ∧ (before ++ d.piece start stop).utf8ByteSize = stop := by
  obtain ⟨i, -, rfl⟩ := Text.exists_offset_of_isValid h.start_valid
  obtain ⟨j, hj, rfl⟩ := Text.exists_offset_of_isValid h.stop_valid
  have hij : i < j := by
    have hlt := h.start_lt_stop
    by_contra hge
    have hle := Text.offset_mono (Text.ofString d.text) (Nat.le_of_not_lt hge)
    omega
  refine ⟨(Text.ofString d.text).slice 0 i, (Text.ofString d.text).slice j
    (Text.ofString d.text).size, ?_, rfl, ?_, ?_⟩
  · rw [piece_offset (Nat.le_of_lt hij), Text.slice_append _ (Nat.zero_le i) (Nat.le_of_lt hij),
      Text.slice_append _ (Nat.zero_le j) hj, Text.slice_all]
  · rw [piece_offset (Nat.le_of_lt hij)]
    exact Text.slice_ne_empty hij hj
  · rw [piece_offset (Nat.le_of_lt hij), Text.slice_append _ (Nat.zero_le i) (Nat.le_of_lt hij)]
    rfl

end Chunk

/-! ### Colours -/

/-- A piece as it is written: alone, or between the control sequences of a colour. -/
inductive Dressed (piece : String) : String → Prop
  | plain : Dressed piece piece
  | coloured (n : Nat) : Dressed piece ("\x1b[38;5;" ++ toString n ++ "m" ++ piece ++ "\x1b[0m")

theorem Chunk.painted_dressed (p : String × Option Style) : Dressed p.1 (painted p) := by
  obtain ⟨text, _ | style⟩ := p
  · exact .plain
  · exact .coloured style.colour

/-- Chunks whose coloured text is the source in colours. -/
structure ShowsSource (source : String) (ds : List Chunk) : Prop where
  /-- Every token begins and ends with a character, and its piece stands there in the text. -/
  cut : ∀ d ∈ ds, ∀ t ∈ d.tokens, Fits d.text t.start t.stop ∧ ∃ before after,
    d.text = before ++ d.piece t.start t.stop ++ after ∧ before.utf8ByteSize = t.start ∧
      d.piece t.start t.stop ≠ "" ∧ (before ++ d.piece t.start t.stop).utf8ByteSize = t.stop
  written : String.join (ds.map Chunk.coloured) =
    String.join ((ds.flatMap Chunk.pieces).map Chunk.painted)
  dressed : ∀ p ∈ ds.flatMap Chunk.pieces, Dressed p.1 (Chunk.painted p) ∧ p.1 ≠ ""
  whole : String.join ((ds.flatMap Chunk.pieces).map (·.1)) = source

theorem join_flatMap {α : Type} (f : α → List String) (xs : List α) :
    String.join (xs.flatMap f) = String.join (xs.map fun x => String.join (f x)) := by
  induction xs with
  | nil => rfl
  | cons x xs ih => rw [List.flatMap_cons, String.join_append, ih, List.map_cons, String.join_cons]

theorem ShowsSource.of_contained {source : String} {ds : List Chunk} (h : ∀ d ∈ ds, d.Contained)
    (hsource : String.join (ds.map (·.text)) = source) : ShowsSource source ds := by
  have hcut : ∀ d ∈ ds, ∀ t ∈ d.tokens, Fits d.text t.start t.stop ∧ ∃ before after,
      d.text = before ++ d.piece t.start t.stop ++ after ∧ before.utf8ByteSize = t.start ∧
        d.piece t.start t.stop ≠ "" ∧
          (before ++ d.piece t.start t.stop).utf8ByteSize = t.stop := by
    intro d hd t ht
    have hfits := (h d hd).tokens t ht
    exact ⟨hfits, Chunk.exists_around hfits⟩
  refine ⟨hcut, ?_, fun p hp => ⟨Chunk.painted_dressed p, ?_⟩, ?_⟩
  · rw [List.map_flatMap, join_flatMap]
    rfl
  · obtain ⟨d, hd, hp⟩ := List.mem_flatMap.1 hp
    obtain ⟨t, ht, rfl⟩ := List.mem_map.1 hp
    obtain ⟨-, _, _, -, -, hne, -⟩ := hcut d hd t ht
    exact hne
  · rw [List.map_flatMap, join_flatMap, ← hsource]
    congr 1
    exact List.map_congr_left fun d _ => d.join_pieces

namespace Session

/-- If a source is scanned to its end, its coloured text shows all of it: the pieces that are written
are not empty, stand where their tokens say, and are the source when put together. -/
theorem parse_showsSource [Engine] (s : Session) (name source : String)
    (h : s.catalogue.GoesAhead s.cache) (hok : (s.parse name source).1.error? = none) :
    ShowsSource source (s.parse name source).1.items := by
  rw [parse_eq_embedded] at hok ⊢
  rcases Scan.embedded_cases (scan s.catalogue s.options s.options.depthLimit)
      (.refl s.catalogue s.cache) name (Text.ofString source) 0 with
    ⟨e, k, -, -, hrun⟩ | ⟨l, k, hk, hname, hrun⟩ <;> rw [hrun] at hok ⊢
  · cases hok
  · have hencloses := scan_encloses h hk s.options s.options.depthLimit l (Text.ofString source) 0
    have hcovers := scan_covers s.catalogue s.options s.options.depthLimit l source k 0
      (h name l hname _)
    exact .of_contained (fun d hd => (hencloses d hd).contained) (hcovers.whole hok)

/-- Two groups that share a character of two bytes, and a part in the same language. -/
def sharing : Session :=
  ⟨.ofList [⟨"s", "S", .names [], [⟨"(?=(aé))a(éb)(.*)",
    .ofList [(1, .scope "Keyword"), (2, .scope "String"), (3, .language "S")]⟩]⟩], .empty, {}⟩

theorem parse_showsSource_sharing : sharing.catalogue.GoesAhead sharing.cache ∧
    (sharing.parse "s" "xaéb-aébc").1.error? = none ∧
    (sharing.parse "s" "xaéb-aébc").1.items.map (·.text) = ["x", "aéb-aébc"] ∧
    (sharing.parse "s" "xaéb-aébc").1.spent = 2 ∧
    ShowsSource "xaéb-aébc" (sharing.parse "s" "xaéb-aébc").1.items := by
  have hplain : sharing.catalogue.definitions.all (·.isPlain) := by decide +kernel
  have hahead : sharing.catalogue.GoesAhead sharing.cache :=
    Catalogue.goesAhead_of_plain (List.all_eq_true.1 hplain)
  have hok : (sharing.parse "s" "xaéb-aébc").1.error? = none := by decide +kernel
  exact ⟨hahead, hok, by decide +kernel, by decide +kernel,
    parse_showsSource sharing "s" "xaéb-aébc" hahead hok⟩

end Session

end ScopeLexer
