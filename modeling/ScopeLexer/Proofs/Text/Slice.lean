import ScopeLexer.Scan.Chunk

/-! Slices of a text between characters, and the bytes at which they lie. A slice is the piece that
is left of the text when what stands before it and after it is taken away; the bytes before a
character never end inside another one. -/

namespace ScopeLexer.Regex.Text

/-- The number of bytes before a character. -/
def offset (text : Text) (i : Nat) : Nat := text.width 0 i

theorem toList_slice (text : Text) (a b : Nat) :
    (text.slice a b).toList = (text.toList.drop a).take (b - a) := by
  simp [slice, List.extract_eq_take_drop]

theorem slice_self (text : Text) (a : Nat) : text.slice a a = "" := by
  apply String.toList_injective
  simp [toList_slice]

theorem slice_all (source : String) : (ofString source).slice 0 (ofString source).size = source := by
  apply String.toList_injective
  simp [toList_slice, ofString]

theorem slice_append (text : Text) {a b c : Nat} (hab : a ≤ b) (hbc : b ≤ c) :
    text.slice a b ++ text.slice b c = text.slice a c := by
  apply String.toList_injective
  have hc : c - a = (b - a) + (c - b) := by omega
  have hb : b = a + (b - a) := by omega
  rw [String.toList_append, toList_slice, toList_slice, toList_slice, hc, List.take_add,
    List.drop_drop, ← hb]

theorem slice_ne_empty {text : Text} {a b : Nat} (hab : a < b) (hb : b ≤ text.size) :
    text.slice a b ≠ "" := by
  intro h
  have hl := congrArg (List.length ∘ String.toList) h
  simp [toList_slice] at hl
  omega

/-- Slices of a slice are slices of the text. -/
theorem slice_extract (text : Text) {a b c d : Nat} (hd : a + d ≤ b) :
    Text.slice (text.extract a b) c d = text.slice (a + c) (a + d) := by
  apply String.toList_injective
  simp only [toList_slice, Array.toList_extract, List.extract_eq_take_drop, List.drop_take,
    List.drop_drop, List.take_take]
  congr 1
  omega

theorem ofString_slice (text : Text) (a b : Nat) : ofString (text.slice a b) = text.extract a b := by
  apply Array.toList_inj.1
  simp [ofString, slice]

/-! ### Bytes -/

@[simp] theorem offset_zero (text : Text) : text.offset 0 = 0 := by
  simp [offset, width, slice_self]

theorem offset_add_width (text : Text) {a b : Nat} (hab : a ≤ b) :
    text.offset a + text.width a b = text.offset b := by
  rw [offset, width, width, ← String.utf8ByteSize_append, slice_append text (Nat.zero_le a) hab]
  rfl

theorem offset_mono (text : Text) {a b : Nat} (hab : a ≤ b) : text.offset a ≤ text.offset b := by
  have := text.offset_add_width hab
  omega

theorem width_add_width (text : Text) {a b c : Nat} (hab : a ≤ b) (hbc : b ≤ c) :
    text.width a b + text.width b c = text.width a c := by
  rw [width, width, width, ← String.utf8ByteSize_append, slice_append text hab hbc]

/-- In a piece of a text, bytes count from its start. -/
theorem offset_extract (text : Text) {a b i : Nat} (h : a + i ≤ b) :
    Text.offset (text.extract a b) i = text.width a (a + i) := by
  rw [offset, width, slice_extract text h]
  rfl

theorem width_pos {text : Text} {a b : Nat} (hab : a < b) (hb : b ≤ text.size) :
    0 < text.width a b := by
  rw [width, Nat.pos_iff_ne_zero]
  simpa using slice_ne_empty hab hb

theorem offset_lt {text : Text} {a b : Nat} (hab : a < b) (hb : b ≤ text.size) :
    text.offset a < text.offset b := by
  have := width_pos hab hb
  have := text.offset_add_width (Nat.le_of_lt hab)
  omega

theorem offset_size (source : String) :
    (ofString source).offset (ofString source).size = source.utf8ByteSize := by
  rw [offset, width, slice_all]

/-- The bytes before a character end where it begins. -/
theorem offset_isValid (source : String) (i : Nat) :
    (String.Pos.Raw.mk ((ofString source).offset i)).IsValid source := by
  rw [String.Pos.Raw.isValid_iff_exists_take_toList]
  refine ⟨i, ?_⟩
  show (Text.slice _ 0 i).utf8ByteSize = _
  rw [← String.ofList_toList (s := Text.slice _ 0 i), toList_slice]
  simp [ofString]

theorem exists_offset_of_isValid {source : String} {k : Nat}
    (h : (String.Pos.Raw.mk k).IsValid source) :
    ∃ i ≤ (ofString source).size, k = (ofString source).offset i := by
  obtain ⟨i, hi⟩ := String.Pos.Raw.isValid_iff_exists_take_toList.1 h
  refine ⟨min i (ofString source).size, Nat.min_le_right _ _, ?_⟩
  rw [offset, width, ← String.ofList_toList (s := Text.slice _ 0 _), toList_slice]
  have htake : source.toList.take (min i source.toList.length) = source.toList.take i :=
    List.take_eq_take_iff.2 (by omega)
  simp only [ofString, Nat.sub_zero, List.drop_zero, List.size_toArray] at hi ⊢
  rw [htake, hi]

/-! ### Spans -/

/-- The bytes of some characters, of one at least. -/
def Spans (text : Text) (start length : Nat) : Prop :=
  ∃ i j, i < j ∧ j ≤ text.size ∧ start = text.offset i ∧ start + length = text.offset j

theorem spans_of_lt {text : Text} {a b i j : Nat} (hai : a ≤ i) (hij : i < j) (hjb : j ≤ b)
    (hb : b ≤ text.size) : Spans (text.extract a b) (text.width a i) (text.width i j) := by
  refine ⟨i - a, j - a, by omega, ?_, ?_, ?_⟩
  · rw [Array.size_extract]
    omega
  · rw [offset_extract text (by omega)]
    congr 1
    omega
  · rw [offset_extract text (by omega), width_add_width text hai (Nat.le_of_lt hij)]
    congr 1
    omega

/-- A span of a piece is a span of every piece around it. -/
theorem Spans.of_extract {text : Text} {a b c d start length : Nat} (hca : c ≤ a) (hbd : b ≤ d)
    (hd : d ≤ text.size) (h : Spans (text.extract a b) start length) :
    Spans (text.extract c d) (start + text.width c a) length := by
  obtain ⟨i, j, hij, hj, hstart, hstop⟩ := h
  rw [Array.size_extract] at hj
  rw [offset_extract text (by omega)] at hstart hstop
  have hi := text.width_add_width hca (Nat.le_add_right a i)
  have hj' := text.width_add_width hca (Nat.le_add_right a j)
  have hij' := text.width_add_width (Nat.le_add_right a i)
    (Nat.add_le_add_left (Nat.le_of_lt hij) a)
  have hs : start + text.width c a = text.width c (a + i) := by omega
  have hl : length = text.width (a + i) (a + j) := by omega
  rw [hs, hl]
  exact spans_of_lt (by omega) (by omega) (by omega) hd

theorem extract_all (text : Text) : text.extract 0 text.size = text := Array.extract_size

theorem Spans.of_piece {text : Text} {a b start length : Nat} (hb : b ≤ text.size)
    (h : Spans (text.extract a b) start length) : text.Spans (start + text.offset a) length := by
  have hs := h.of_extract (Nat.zero_le a) hb (Nat.le_refl _)
  rwa [extract_all] at hs

end ScopeLexer.Regex.Text
