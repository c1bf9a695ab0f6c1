import ScopeLexer.Language.Lexer
import ScopeLexer.Regex.Token

/-! References by number. A pattern text that is checked holds none behind any backslash that is not
itself escaped. The check goes through the text by characters and not by tokens; still it comes past
the end of every token, since no token ends in the middle of what the check takes together. So what
is left of a text after a token holds no reference by number either, and the reader of tokens never
meets one. -/

namespace ScopeLexer.Language

open Regex

/-- What is left of a text once a part of it was read that ends in no backslash. -/
def Passes (s rest : List Char) : Prop := ∃ read, s = read ++ rest ∧ read.getLast? ≠ some '\\'

theorem hasNumberedReference_cons {c : Char} (hc : c ≠ '\\') (s : List Char) :
    hasNumberedReference (c :: s) = hasNumberedReference s := by
  simp [hasNumberedReference, hc]

theorem hasNumberedReference_pair {c : Char} {s : List Char}
    (h : hasNumberedReference ('\\' :: c :: s) = false) :
    isNumberedReference (c :: s) = false ∧ hasNumberedReference s = false := by
  simpa [hasNumberedReference] using h

theorem isNumberedReference_digit {c : Char} (h1 : '1' ≤ c) (h9 : c ≤ '9') (s : List Char) :
    isNumberedReference (c :: s) = true := by
  rcases s with _ | ⟨d, _ | ⟨e, s⟩⟩ <;> simp [isNumberedReference, h1, h9]

namespace Passes

theorem refl (s : List Char) : Passes s s := ⟨[], rfl, by simp⟩

theorem of_eq {s x rest : List Char} {c : Char} (e : s = x ++ c :: rest) (hc : c ≠ '\\') :
    Passes s rest := ⟨x ++ [c], by simp [e], by simpa using hc⟩

theorem trans {s t rest : List Char} (h : Passes s t) (k : Passes t rest) : Passes s rest := by
  obtain ⟨x, rfl, hx⟩ := h
  obtain ⟨y, rfl, hy⟩ := k
  refine ⟨x ++ y, by simp, ?_⟩
  cases y with
  | nil => simpa using hx
  | cons c y => simpa [List.getLast?_append] using hy

theorem cons {c : Char} (hc : c ≠ '\\') (s : List Char) : Passes (c :: s) s :=
  of_eq (x := []) rfl hc

theorem dropWhile {p : Char → Bool} (hp : p '\\' = false) (s : List Char) :
    Passes s (s.dropWhile p) := by
  induction s with
  | nil => exact refl _
  | cons c s ih =>
    rw [List.dropWhile_cons]
    split
    · next hc =>
      refine (cons ?_ s).trans ih
      rintro rfl
      simp [hp] at hc
    · exact refl _

theorem takeUpTo {p : Char → Bool} (hp : p '\\' = false) (most : Nat) (s : List Char) :
    Passes s (takeUpTo p most s).2 := by
  fun_induction Regex.takeUpTo p most s with
  | case1 => exact refl _
  | case2 => exact refl _
  | case3 most c s hc ds rest e ih =>
    refine (cons ?_ s).trans (by simpa [e] using ih)
    rintro rfl
    simp [hp] at hc
  | case4 => exact refl _

/-- No text that is left holds a reference by number if the whole text holds none. -/
theorem unnumbered {s rest : List Char} (h : Passes s rest) (hs : hasNumberedReference s = false) :
    hasNumberedReference rest = false := by
  obtain ⟨read, rfl, hl⟩ := h
  induction hn : read.length using Nat.strongRecOn generalizing read with
  | ind n ih =>
    match read with
    | [] => exact hs
    | [c] =>
      rwa [List.singleton_append, hasNumberedReference_cons (by simpa using hl)] at hs
    | c :: d :: read =>
      by_cases hc : c = '\\'
      · subst hc
        refine ih read.length (by simp at hn; omega) read ?_ (hasNumberedReference_pair hs).2 rfl
        cases read with
        | nil => simp
        | cons e read => simpa using hl
      · rw [List.cons_append, hasNumberedReference_cons hc] at hs
        exact ih (d :: read).length (by simp at hn ⊢; omega) (d :: read) (by simpa using hl) hs rfl

end Passes

end ScopeLexer.Language
