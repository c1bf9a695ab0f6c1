import Mathlib
import ScopeLexer.Unicode.Case

/-! Lowercase forms and the case of ASCII letters. Texts that differ only in the case of ASCII
letters have one lowercase form, since no property of a character that lowercasing looks at depends
on that case. Texts with one lowercase form may differ in more, but not if it is in ASCII and
without the letter k, which is the lowercase form of the Kelvin sign, too. -/

namespace ScopeLexer.Unicode

/-! ### ASCII letters -/

theorem isUpper_iff {c : Char} : c.isUpper ↔ 65 ≤ c.toNat ∧ c.toNat ≤ 90 := by
  simp [Char.isUpper, UInt32.le_iff_toNat_le]

/-- What is the same for each capital ASCII letter and its small one. -/
theorem apply_toLower {α : Type} {f : Char → α}
    (h : ∀ n < 26, f (Char.ofNat (65 + n)).toLower = f (Char.ofNat (65 + n))) (c : Char) :
    f c.toLower = f c := by
  by_cases hc : c.isUpper
  · obtain ⟨hlow, hhigh⟩ := isUpper_iff.1 hc
    obtain ⟨n, hn⟩ := Nat.exists_eq_add_of_le hlow
    have hletter := h n (by omega)
    rwa [← hn, Char.ofNat_toNat] at hletter
  · rw [Char.toLower_eq_of_not_isUpper hc]

theorem isCased_toLower (c : Char) : isCased c.toLower = isCased c :=
  apply_toLower (by decide +kernel) c

theorem isCaseIgnorable_toLower (c : Char) : isCaseIgnorable c.toLower = isCaseIgnorable c :=
  apply_toLower (by decide +kernel) c

theorem lower_toLower (c : Char) : lower c.toLower = lower c :=
  apply_toLower (by decide +kernel) c

theorem toLower_eq_sigma (c : Char) : decide (c.toLower = 'Σ') = decide (c = 'Σ') :=
  apply_toLower (f := fun c => decide (c = 'Σ')) (by decide +kernel) c

theorem meetsCased_map (cs : List Char) : meetsCased (cs.map Char.toLower) = meetsCased cs := by
  have hignorable : isCaseIgnorable ∘ Char.toLower = isCaseIgnorable :=
    funext isCaseIgnorable_toLower
  rw [meetsCased, meetsCased, List.dropWhile_map, hignorable]
  cases cs.dropWhile isCaseIgnorable with
  | nil => rfl
  | cons c cs => exact isCased_toLower c

theorem lowerFrom_map (before cs : List Char) :
    lowerFrom (before.map Char.toLower) (cs.map Char.toLower) = lowerFrom before cs := by
  induction cs generalizing before with
  | nil => rfl
  | cons c cs ih =>
    have hsigma := decide_eq_decide.1 (toLower_eq_sigma c)
    rw [List.map_cons, lowerFrom, lowerFrom, meetsCased_map, meetsCased_map, lower_toLower,
      ← List.map_cons, ih]
    simp only [hsigma]

theorem eqIgnoringAsciiCase_iff {s t : String} :
    eqIgnoringAsciiCase s t ↔ s.toList.map Char.toLower = t.toList.map Char.toLower := beq_iff_eq

theorem lowercase_eq_of_eqIgnoringAsciiCase {s t : String} (h : eqIgnoringAsciiCase s t) :
    lowercase s = lowercase t := by
  rw [lowercase, lowercase, ← lowerFrom_map [] s.toList, ← lowerFrom_map [] t.toList,
    eqIgnoringAsciiCase_iff.1 h]

/-! ### Lowercase forms in ASCII -/

theorem Mapping.exists_run {m : Mapping} {n i : Nat} (h : m.image? n = some i) :
    ∃ e ∈ m, e.1 ≤ n ∧ n ≤ e.2.1 ∧ i = e.2.2.2 + (n - e.1) := by
  induction m with
  | nil => cases h
  | cons e m ih =>
    rw [image?] at h
    split at h
    · cases h
    · next hfirst =>
      split at h
      · next hrun =>
        exact ⟨e, List.mem_cons_self, Nat.le_of_not_lt hfirst, hrun.1, (Option.some.inj h).symm⟩
      · obtain ⟨e', he', hrun⟩ := ih h
        exact ⟨e', List.mem_cons_of_mem e he', hrun⟩

/-- But for the ASCII letters and the Kelvin sign, all lowercase forms in the table are beyond
ASCII. -/
theorem mem_lowering : ∀ e ∈ CaseTable.lowering, e = (65, 90, 1, 97) ∨ e = (8490, 8490, 1, 107) ∨
    128 ≤ e.2.2.2 ∧ e.2.2.2 + (e.2.1 - e.1) < 0xD800 ∨
      0xE000 ≤ e.2.2.2 ∧ e.2.2.2 + (e.2.1 - e.1) < 0x110000 := by
  decide +kernel

theorem image?_lowering {n i : Nat} (h : CaseTable.lowering.image? n = some i) :
    65 ≤ n ∧ n ≤ 90 ∧ i = n + 32 ∨ i = 107 ∨ 128 ≤ i ∧ i.isValidChar := by
  obtain ⟨e, he, hfirst, hlast, rfl⟩ := Mapping.exists_run h
  rcases mem_lowering e he with rfl | rfl | ⟨hlow, hhigh⟩ | ⟨hlow, hhigh⟩
  · dsimp only at hfirst hlast ⊢
    exact .inl ⟨hfirst, hlast, by omega⟩
  · dsimp only at hfirst hlast ⊢
    exact .inr (.inl (by omega))
  · exact .inr (.inr ⟨by omega, .inl (by omega)⟩)
  · exact .inr (.inr ⟨by omega, .inr ⟨by omega, by omega⟩⟩)

theorem image?_lowering_of_isUpper {c : Char} (h : c.isUpper) :
    CaseTable.lowering.image? c.toNat = some (c.toNat + 32) := by
  obtain ⟨hlow, hhigh⟩ := isUpper_iff.1 h
  rw [CaseTable.lowering, Mapping.image?, if_neg (by omega), if_pos (by omega)]
  congr 1
  omega

theorem lower_cases (c : Char) : lower c = ['i', '\u0307'] ∨ ∃ a, lower c = [a] := by
  unfold lower
  split
  · exact .inl rfl
  · exact .inr ⟨_, rfl⟩

/-- Of the characters that lowercasing takes to one in ASCII other than k, ASCII letters alone
change. -/
theorem toLower_of_lower {c a : Char} (h : lower c = [a]) (ha : a.toNat < 128) (hk : a ≠ 'k') :
    c.toLower = a := by
  unfold lower at h
  split at h
  · cases h
  have hlower := (List.cons.inj h).1
  cases himage : CaseTable.lowering.image? c.toNat with
  | none =>
    rw [himage] at hlower
    have hc : ¬c.isUpper := by
      intro hc
      cases himage.symm.trans (image?_lowering_of_isUpper hc)
    exact (Char.toLower_eq_of_not_isUpper hc).trans hlower
  | some i =>
    rw [himage] at hlower
    obtain rfl : Char.ofNat i = a := hlower
    rcases image?_lowering himage with ⟨hlow, hhigh, rfl⟩ | rfl | ⟨hi, hvalid⟩
    · exact Char.toLower_eq_of_isUpper (isUpper_iff.2 ⟨hlow, hhigh⟩)
    · exact absurd rfl hk
    · rw [Char.toNat_ofNat, if_pos hvalid] at ha
      omega

theorem lowerFrom_eq_map {before cs : List Char}
    (h : ∀ a ∈ lowerFrom before cs, a.toNat < 128 ∧ a ≠ 'k') :
    lowerFrom before cs = cs.map Char.toLower := by
  induction cs generalizing before with
  | nil => rfl
  | cons c cs ih =>
    rw [lowerFrom] at h ⊢
    obtain ⟨hc, hcs⟩ := List.forall_mem_append.1 h
    rw [ih hcs]
    by_cases hsigma : c = 'Σ'
    · rw [if_pos hsigma] at hc
      split at hc
      · exact absurd (hc 'ς' List.mem_cons_self).1 (by decide)
      · exact absurd (hc 'σ' List.mem_cons_self).1 (by decide)
    · rw [if_neg hsigma] at hc ⊢
      rcases lower_cases c with hdotted | ⟨a, ha⟩
      · rw [hdotted] at hc
        exact absurd (hc '\u0307' (List.mem_cons_of_mem _ List.mem_cons_self)).1 (by decide)
      · rw [ha] at hc ⊢
        obtain ⟨hascii, hk⟩ := hc a List.mem_cons_self
        rw [List.map_cons, toLower_of_lower ha hascii hk]
        rfl

/-- Texts with the same lowercase form, in ASCII and without the letter k, differ in the case of
letters in ASCII only. -/
theorem eqIgnoringAsciiCase_of_lowercase {s t : String} (h : lowercase s = lowercase t)
    (hs : ∀ a ∈ (lowercase s).toList, a.toNat < 128 ∧ a ≠ 'k') : eqIgnoringAsciiCase s t := by
  have ht := h ▸ hs
  rw [lowercase, String.toList_ofList] at hs ht
  rw [eqIgnoringAsciiCase_iff, ← lowerFrom_eq_map hs, ← lowerFrom_eq_map ht]
  exact String.ofList_injective h

/-- The Kelvin sign and both forms of k. -/
example : lowercase "K" = "k" ∧ lowercase "\u212A" = "k" ∧ eqIgnoringAsciiCase "K" "k" ∧
    ¬eqIgnoringAsciiCase "\u212A" "k" := by
  decide +kernel

end ScopeLexer.Unicode
