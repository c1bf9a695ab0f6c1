/-! Texts as bytes. A character in ASCII is one byte, with the same number, and no byte of any other
character has a number in ASCII; so what a byte-wise reader looks for in ASCII it finds at
characters only. -/

namespace ScopeLexer.Text

/-- The bytes of a text. -/
def utf8 (cs : List Char) : List UInt8 := cs.flatMap String.utf8EncodeChar

@[simp] theorem utf8_nil : utf8 [] = [] := rfl

@[simp] theorem utf8_cons (c : Char) (cs : List Char) :
    utf8 (c :: cs) = String.utf8EncodeChar c ++ utf8 cs := rfl

@[simp] theorem utf8_append (cs ds : List Char) : utf8 (cs ++ ds) = utf8 cs ++ utf8 ds :=
  List.flatMap_append

theorem data_toUTF8 (s : String) : s.toUTF8.data.toList = utf8 s.toList := by
  rw [String.toUTF8_eq_toByteArray, ← String.utf8Encode_toList, List.utf8Encode,
    List.toList_data_toByteArray]
  rfl

theorem toList_loop (bytes : ByteArray) (i : Nat) (before : List UInt8) :
    ByteArray.toList.loop bytes i before = before.reverse ++ bytes.data.toList.drop i := by
  fun_induction ByteArray.toList.loop bytes i before with
  | case1 i before h ih =>
    have hi : i < bytes.data.toList.length := by simpa using h
    rw [ih, List.drop_eq_getElem_cons hi]
    simp [ByteArray.get!, h]
  | case2 i before h =>
    rw [List.drop_eq_nil_of_le (by simpa using Nat.le_of_not_lt h), List.append_nil]

theorem toList_toUTF8 (s : String) : s.toUTF8.toList = utf8 s.toList := by
  rw [ByteArray.toList, toList_loop, List.reverse_nil, List.nil_append, List.drop_zero, data_toUTF8]

/-- The bytes of a text are read as that text. -/
theorem fromUTF8?_utf8 (s : String) : String.fromUTF8? ⟨(utf8 s.toList).toArray⟩ = some s := by
  have hs : (⟨(utf8 s.toList).toArray⟩ : ByteArray) = s.toByteArray := by
    apply ByteArray.ext
    rw [← data_toUTF8, Array.toArray_toList, String.toUTF8_eq_toByteArray]
  have hv : s.toByteArray.IsValidUTF8 := s.isValidUTF8
  rw [hs, String.fromUTF8?, dif_pos hv]
  rfl

/-! ### Characters -/

theorem encoded_of_lt {c : Char} (h : c.toNat < 0x80) :
    String.utf8EncodeChar c = [UInt8.ofNat c.toNat] := by
  rw [String.utf8EncodeChar, if_pos (by exact Nat.le_of_lt_succ h)]
  rfl

/-- A leading or following byte is at least the bits that mark it. -/
theorem le_marked {n m mark : Nat} (hm : n % m + mark < 256) (hmark : 0x80 ≤ mark) :
    0x80 ≤ UInt8.ofNat (n % m + mark) := by
  rw [UInt8.le_iff_toNat_le, UInt8.toNat_ofNat_of_lt' hm]
  exact Nat.le_trans hmark (Nat.le_add_left ..)

theorem le_of_mem_encoded {c : Char} (h : 0x80 ≤ c.toNat) {b : UInt8}
    (hb : b ∈ String.utf8EncodeChar c) : 0x80 ≤ b := by
  rw [String.utf8EncodeChar, if_neg (by exact Nat.not_le_of_lt h)] at hb
  split at hb
  · simp only [List.mem_cons, List.not_mem_nil, or_false] at hb
    rcases hb with rfl | rfl <;> exact le_marked (by omega) (by omega)
  · split at hb
    · simp only [List.mem_cons, List.not_mem_nil, or_false] at hb
      rcases hb with rfl | rfl | rfl <;> exact le_marked (by omega) (by omega)
    · simp only [List.mem_cons, List.not_mem_nil, or_false] at hb
      rcases hb with rfl | rfl | rfl | rfl <;> exact le_marked (by omega) (by omega)

/-- A character is a byte with its own number, or all its bytes are beyond ASCII. -/
theorem encoded_cases (c : Char) :
    (c.toNat < 0x80 ∧ String.utf8EncodeChar c = [UInt8.ofNat c.toNat]) ∨
      (0x80 ≤ c.toNat ∧ ∀ b ∈ String.utf8EncodeChar c, 0x80 ≤ b) := by
  by_cases h : c.toNat < 0x80
  · exact .inl ⟨h, encoded_of_lt h⟩
  · exact .inr ⟨Nat.le_of_not_lt h, fun _ => le_of_mem_encoded (Nat.le_of_not_lt h)⟩

end ScopeLexer.Text
