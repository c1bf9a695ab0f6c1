import ScopeLexer.Proofs.Regex.Renumber
import ScopeLexer.Regex.Parser

/-! Reading inside a group. A reader that takes the same tokens inside group `b` of a larger pattern
comes to the same pieces, with groups that are numbered behind `b`; what was the whole pattern is the
body of group `b`. The frames that are open say which groups are, so a closing parenthesis closes
the same group in both. -/

namespace ScopeLexer.Regex

/-- Adds `b` to a reference by number. -/
def Reference.move (b : Nat) : Reference → Reference
  | name n => name n
  | number i written => number (b + i) written

/-- A pattern as it is read where the groups counted from it start behind `b`. -/
def Pattern.move (b : Nat) (p : Pattern Reference) : Pattern Reference :=
  p.renumber b (Reference.move b)

/-- The groups of a text that is read inside group `b`, after groups with the names `before`. -/
def Groups.move (b : Nat) (before : List (String × Nat)) (g : Groups) : Groups :=
  ⟨b + g.count, g.unclosed.map (b + ·) ++ [b], before ++ g.names.map fun (n, i) => (n, b + i)⟩

namespace Piece

def move (b : Nat) (p : Piece) : Piece := ⟨p.pattern.move b, p.repeatable⟩

variable {b : Nat}

end Piece

def Enclosure.move (b : Nat) : Enclosure → Enclosure
  | whole => capture b
  | capture i => capture (b + i)
  | choice groups level => choice (groups.map (b + ·)) level
  | e => e

namespace Frame

def move (b : Nat) (fr : Frame) : Frame :=
  ⟨fr.enclosure.move b, fr.flags, fr.branches.map (·.move b), fr.pieces.map (·.move b)⟩

variable {b : Nat}

end Frame

def Token.move (b : Nat) : Token → Token
  | piece p => piece (p.move b)
  | choice groups level => choice (groups.map (b + ·)) level
  | t => t

/-! ### Numbers -/

/-- The groups that a pattern opens are numbered from one to `n`, and those that it refers back to
or asks for from one on. -/
def Pattern.Within {ρ : Type} (n : Nat) : Pattern ρ → Prop
  | group i p => 1 ≤ i ∧ i ≤ n ∧ p.Within n
  | seq p q | alt p q => p.Within n ∧ q.Within n
  | loop p _ _ _ | atomic p | ahead _ p | behind _ p => p.Within n
  | same groups _ _ _ | given _ groups _ => ∀ i ∈ groups, 1 ≤ i
  | _ => True

theorem Pattern.Within.mono {ρ : Type} {m n : Nat} (h : m ≤ n) {p : Pattern ρ} (hp : p.Within m) :
    p.Within n := by
  induction p with
  | group i p ih => exact ⟨hp.1, Nat.le_trans hp.2.1 h, ih hp.2.2⟩
  | seq p q ihp ihq | alt p q ihp ihq => exact ⟨ihp hp.1, ihq hp.2⟩
  | loop p _ _ _ ih | atomic p ih | ahead _ p ih | behind _ p ih => exact ih hp
  | same | given => exact hp
  | _ => trivial

theorem Pattern.choice_within {ρ : Type} {n : Nat} {groups : List Nat} (hg : ∀ i ∈ groups, 1 ≤ i)
    (level : Option Int) {p : Pattern ρ} (hp : p.Within n) : (choice groups level p).Within n := by
  cases p with
  | alt p q => exact ⟨⟨⟨hg, hp.1⟩, hg, hp.2⟩, trivial⟩
  | _ => exact ⟨⟨⟨hg, hp⟩, hg⟩, trivial⟩

namespace Piece

variable {n : Nat}

theorem precede_within {p q : Pattern Reference} {ps : List (Pattern Reference)} (hp : p.Within n)
    (hps : ∀ q ∈ ps, q.Within n) (hq : q ∈ precede p ps) : q.Within n := by
  have hcons : q ∈ p :: ps → q.Within n := by
    intro h
    rcases List.mem_cons.1 h with rfl | h
    · exact hp
    · exact hps q h
  unfold precede at hq
  split at hq
  · exact hcons hq
  · next q' ps =>
    split at hq
    · rcases List.mem_cons.1 hq with rfl | h
      · trivial
      · exact hps q (List.mem_cons_of_mem _ h)
    · split at hq
      · rcases List.mem_cons.1 hq with rfl | h
        · trivial
        · exact hps q (List.mem_cons_of_mem _ h)
      · exact hcons hq
    · exact hcons hq

theorem sequence_within {ps : List (Pattern Reference)} (h : ∀ p ∈ ps, p.Within n) :
    (sequence ps).Within n := by
  match ps with
  | [] => trivial
  | [p] => exact h p (by simp)
  | p :: q :: ps => exact ⟨h p (by simp), sequence_within fun r hr => h r (List.mem_cons_of_mem _ hr)⟩

theorem foldl_precede_within {ps : List Piece} {rest : List (Pattern Reference)}
    (hps : ∀ p ∈ ps, p.pattern.Within n) (hrest : ∀ q ∈ rest, q.Within n) :
    ∀ q ∈ ps.foldl (fun rest p => precede p.pattern rest) rest, q.Within n := by
  induction ps generalizing rest with
  | nil => exact hrest
  | cons p ps ih =>
    exact ih (fun q hq => hps q (List.mem_cons_of_mem _ hq))
      (fun q hq => precede_within (hps p (by simp)) hrest hq)

theorem ofReversed_within {ps : List Piece} (h : ∀ p ∈ ps, p.pattern.Within n) :
    (ofReversed ps).pattern.Within n := by
  unfold ofReversed
  split
  · exact h _ (by simp)
  · exact sequence_within (foldl_precede_within h (by simp))

theorem foldl_alt_within {bs : List Piece} {p : Piece} (hp : p.pattern.Within n)
    (hbs : ∀ c ∈ bs, c.pattern.Within n) :
    (bs.foldl (fun q c => ⟨.alt c.pattern q.pattern, c.repeatable && q.repeatable⟩)
      p).pattern.Within n := by
  induction bs generalizing p with
  | nil => exact hp
  | cons c bs ih =>
    refine ih ?_ fun d hd => hbs d (List.mem_cons_of_mem _ hd)
    exact ⟨hbs c (by simp), hp⟩

theorem anyOf_within {bs : List Piece} (h : ∀ p ∈ bs, p.pattern.Within n) :
    (anyOf bs).pattern.Within n := by
  unfold anyOf
  split
  · trivial
  · exact h _ (by simp)
  · next p rest _ =>
    have hp := h p (by simp)
    refine foldl_alt_within ?_ fun c hc => h c (List.mem_cons_of_mem _ hc)
    split
    · exact ⟨hp, trivial⟩
    · exact hp

end Piece

/-! ### Readers -/

/-- The number of the group that is read. -/
def Enclosure.captured? : Enclosure → Option Nat
  | capture i => some i
  | _ => none

/-- The groups that are asked for. -/
def Enclosure.asked : Enclosure → List Nat
  | choice groups _ => groups
  | _ => []

namespace Frame

/-- The outermost frame is that of the whole pattern, and no other one is. -/
def Based : Frame → List Frame → Prop
  | top, [] => top.enclosure = .whole
  | top, fr :: below => top.enclosure ≠ .whole ∧ Based fr below

/-- What was read is numbered from one to `n`. -/
structure Within (n : Nat) (fr : Frame) : Prop where
  captured : ∀ i, fr.enclosure.captured? = some i → 1 ≤ i ∧ i ≤ n
  asked : ∀ i ∈ fr.enclosure.asked, 1 ≤ i
  pieces : ∀ p ∈ fr.pieces, p.pattern.Within n
  branches : ∀ p ∈ fr.branches, p.pattern.Within n

theorem Within.mono {m n : Nat} (h : m ≤ n) {fr : Frame} (hf : fr.Within m) : fr.Within n where
  captured i hi := ⟨(hf.captured i hi).1, Nat.le_trans (hf.captured i hi).2 h⟩
  asked := hf.asked
  pieces p hp := (hf.pieces p hp).mono h
  branches p hp := (hf.branches p hp).mono h

theorem Within.add {n : Nat} {fr : Frame} (hf : fr.Within n) {p : Piece}
    (hp : p.pattern.Within n) : (fr.add p).Within n where
  captured := hf.captured
  asked := hf.asked
  pieces q hq := by
    rcases List.mem_cons.1 hq with rfl | hq
    · exact hp
    · exact hf.pieces q hq
  branches := hf.branches

theorem Within.nextBranch {n : Nat} {fr : Frame} (hf : fr.Within n) : fr.nextBranch.Within n where
  captured := hf.captured
  asked := hf.asked
  pieces q hq := by simp [Frame.nextBranch] at hq
  branches q hq := by
    rcases List.mem_cons.1 hq with rfl | hq
    · exact Piece.ofReversed_within hf.pieces
    · exact hf.branches q hq

theorem Within.piece {n : Nat} {fr : Frame} (hf : fr.Within n) : fr.piece.pattern.Within n := by
  have hp : (Piece.anyOf (.ofReversed fr.pieces :: fr.branches)).pattern.Within n := by
    refine Piece.anyOf_within fun p hp => ?_
    rcases List.mem_cons.1 hp with rfl | hp
    · exact Piece.ofReversed_within hf.pieces
    · exact hf.branches p hp
  have hc := hf.captured
  have ha := hf.asked
  unfold Frame.piece
  cases he : fr.enclosure with
  | capture i =>
    have hi := hc i (by rw [he]; rfl)
    exact ⟨hi.1, hi.2, hp⟩
  | choice groups level =>
    rw [he] at ha
    exact Pattern.choice_within ha level hp
  | opening o => cases o <;> exact hp
  | whole => exact hp
  | flags => exact ⟨hp, trivial⟩
  | setting => exact ⟨hp, trivial⟩

theorem within_new {n : Nat} {e : Enclosure} (he : ∀ i, e.captured? = some i → 1 ≤ i ∧ i ≤ n)
    (ha : ∀ i ∈ e.asked, 1 ≤ i) (f : Flags) : (new e f).Within n where
  captured := he
  asked := ha
  pieces p hp := by simp [new] at hp
  branches p hp := by simp [new] at hp

end Frame

namespace Reader

def frames (r : Reader) : List Frame := r.top :: r.below

/-- What holds while a pattern is read: the groups that are open are those of the frames, and all
numbers are counted. -/
structure Sound (r : Reader) : Prop where
  based : Frame.Based r.top r.below
  unclosed : r.groups.unclosed = r.frames.filterMap (·.enclosure.captured?)
  named : ∀ x ∈ r.groups.names, 1 ≤ x.2 ∧ x.2 ≤ r.groups.count
  within : ∀ fr ∈ r.frames, fr.Within r.groups.count

/-- A reader inside group `b` of a larger pattern. -/
def move (b : Nat) (before : List (String × Nat)) (outer : List Frame) (r : Reader) : Reader :=
  ⟨r.groups.move b before, r.top.move b, r.below.map (·.move b) ++ outer⟩

/-- Closing settings leaves the frames of groups. -/
theorem closeSettings_frames {n : Nat} {top t : Frame} {below rest : List Frame}
    (h : closeSettings top below = (t, rest)) (hb : Frame.Based top below)
    (hw : ∀ fr ∈ top :: below, fr.Within n) :
    Frame.Based t rest ∧ (∀ fr ∈ t :: rest, fr.Within n) ∧
      (t :: rest).filterMap (·.enclosure.captured?) =
        (top :: below).filterMap (·.enclosure.captured?) := by
  induction below generalizing top with
  | nil =>
    obtain ⟨rfl, rfl⟩ := Prod.mk.inj h
    exact ⟨hb, hw, rfl⟩
  | cons fr below ih =>
    rw [closeSettings] at h
    split at h
    · next ht =>
      have hb' : Frame.Based (fr.add top.piece) below := by
        cases below with
        | nil => exact hb.2
        | cons fr' below => exact hb.2
      obtain ⟨h1, h2, h3⟩ := ih h hb' (by
        intro fr' hfr'
        rcases List.mem_cons.1 hfr' with rfl | hfr'
        · exact (hw fr (by simp)).add (hw top (by simp)).piece
        · exact hw fr' (by simp [hfr']))
      have htop : top.enclosure.captured? = none := by
        rw [ht]
        rfl
      refine ⟨h1, h2, h3.trans ?_⟩
      rw [List.filterMap_cons_none (a := top) htop]
      rfl
    · obtain ⟨rfl, rfl⟩ := Prod.mk.inj h
      exact ⟨hb, hw, rfl⟩

theorem based_congr {fr fr' : Frame} (h : fr'.enclosure = fr.enclosure) {below : List Frame}
    (hb : Frame.Based fr below) : Frame.Based fr' below := by
  cases below with
  | nil => exact h.trans hb
  | cons fr'' below => exact ⟨fun h' => hb.1 (h.symm.trans h'), hb.2⟩

/-- Another frame on top with what the old one enclosed. -/
theorem Sound.replace {r : Reader} (hr : r.Sound) {fr : Frame}
    (he : fr.enclosure = r.top.enclosure) (hw : fr.Within r.groups.count) :
    Sound { r with top := fr } where
  based := based_congr he hr.based
  unclosed := by
    have h := hr.unclosed
    simp only [frames, List.filterMap_cons, he] at h ⊢
    exact h
  named := hr.named
  within fr' hfr' := by
    rcases List.mem_cons.1 hfr' with rfl | hfr'
    · exact hw
    · exact hr.within fr' (List.mem_cons_of_mem _ hfr')

/-- A new frame on top that opens no group of its own. -/
theorem Sound.push {r : Reader} (hr : r.Sound) {e : Enclosure} (he : e ≠ .whole)
    (hc : e.captured? = none) (ha : ∀ i ∈ e.asked, 1 ≤ i) (f : Flags) :
    (r.push (.new e f)).Sound where
  based := ⟨he, hr.based⟩
  unclosed := by
    have h := hr.unclosed
    show r.groups.unclosed = (Frame.new e f :: r.frames).filterMap _
    rw [List.filterMap_cons_none (a := Frame.new e f) hc]
    exact h
  named := hr.named
  within fr hfr := by
    rcases List.mem_cons.1 hfr with rfl | hfr
    · exact Frame.within_new (by simp [hc]) ha f
    · exact hr.within fr hfr

theorem Sound.capture {r : Reader} (hr : r.Sound) (name : Option String) (f : Flags) :
    Sound { r.push (.new (.capture (r.groups.count + 1)) f) with groups := r.groups.add name } where
  based := ⟨nofun, hr.based⟩
  unclosed := by
    have h := hr.unclosed
    show (r.groups.count + 1) :: r.groups.unclosed = (r.groups.count + 1) :: r.frames.filterMap _
    rw [h]
  named x hx := by
    show 1 ≤ x.2 ∧ x.2 ≤ r.groups.count + 1
    rcases List.mem_append.1 hx with hx | hx
    · have := hr.named x hx
      omega
    · obtain ⟨n, _, rfl⟩ := List.mem_map.1 hx
      exact ⟨Nat.le_add_left _ _, Nat.le_refl _⟩
  within fr hfr := by
    rcases List.mem_cons.1 hfr with rfl | hfr
    · refine Frame.within_new (fun i hi => ?_) (by simp [Enclosure.asked]) f
      obtain rfl := Option.some.inj hi
      exact ⟨Nat.le_add_left _ _, Nat.le_refl _⟩
    · exact (hr.within fr hfr).mono (Nat.le_succ _)

/-- The group of the frame `t` is closed, if it has one. -/
def closed (t : Frame) (g : Groups) : Groups :=
  match t.enclosure with
  | .capture _ => g.close
  | _ => g

theorem closed_unclosed {t : Frame} {rest : List Frame} {g : Groups}
    (h : g.unclosed = (t :: rest).filterMap (·.enclosure.captured?)) :
    (closed t g).unclosed = rest.filterMap (·.enclosure.captured?) := by
  unfold closed
  split
  · next i e =>
    have hi : t.enclosure.captured? = some i := by
      rw [e]
      rfl
    show g.unclosed.tail = _
    rw [h]
    simp [hi]
  · next e =>
    have hi : t.enclosure.captured? = none := by
      cases he : t.enclosure with
      | capture i => exact absurd he (e i)
      | _ => rfl
    rw [h]
    simp [hi]

theorem Sound.close {r : Reader} (hr : r.Sound) {t fr : Frame} {below : List Frame}
    (h : closeSettings r.top r.below = (t, fr :: below)) :
    Sound ⟨closed t r.groups, fr.add t.piece, below⟩ := by
  obtain ⟨hb, hw, hf⟩ := closeSettings_frames h hr.based hr.within
  have hcount : (closed t r.groups).count = r.groups.count ∧
      (closed t r.groups).names = r.groups.names := by
    unfold closed
    split <;> exact ⟨rfl, rfl⟩
  refine ⟨based_congr (show (fr.add t.piece).enclosure = fr.enclosure from rfl) hb.2, ?_, ?_, ?_⟩
  · exact closed_unclosed (hr.unclosed.trans hf.symm)
  · rw [hcount.1, hcount.2]
    exact hr.named
  · rw [hcount.1]
    intro fr' hfr'
    rcases List.mem_cons.1 hfr' with rfl | hfr'
    · exact (hw fr (by simp)).add (hw t (by simp)).piece
    · exact hw fr' (by simp [hfr'])

end Reader

end ScopeLexer.Regex
