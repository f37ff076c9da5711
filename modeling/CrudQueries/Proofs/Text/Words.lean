/-
  CrudQueries.Proofs.Text.Words — the characters of names.

  What the checks on names accept is a name, or a name and one newline after it (`nameEnd_cases`),
  so apart from that newline its characters are those of names (`mem_identifier`, `mem_suffix`).
  The snake-case form of any text has no other characters either (`mem_snakeChars`).
-/

import CrudQueries.Text.Blank
import CrudQueries.Text.Case
import CrudQueries.Text.Words

namespace CrudQueries.Text

/-! ## Names -/

theorem isNameChar_of_isNameStart {c : Char} (h : isNameStart c = true) : isNameChar c = true := by
  simp only [isNameStart, isNameChar, isAlphanumeric, Bool.or_eq_true] at h ⊢
  rcases h with h | h
  · exact Or.inl (Or.inl h)
  · exact Or.inr h

theorem mem_isNameChars {w : List Char} (h : isNameChars w = true) : w ≠ [] ∧ ∀ c ∈ w, isNameChar c = true := by
  cases w with
  | nil => simp [isNameChars] at h
  | cons c w =>
    simp only [isNameChars, Bool.and_eq_true, List.all_eq_true] at h
    refine ⟨by simp, fun d hd => ?_⟩
    rcases List.mem_cons.mp hd with rfl | hd
    · exact isNameChar_of_isNameStart h.1
    · exact h.2 d hd

/-- The code points of the characters of names. -/
theorem toNat_of_isNameChar {c : Char} (h : isNameChar c = true) :
    (48 ≤ c.toNat ∧ c.toNat ≤ 57) ∨ (65 ≤ c.toNat ∧ c.toNat ≤ 90) ∨ (97 ≤ c.toNat ∧ c.toNat ≤ 122) ∨ c.toNat = 95 := by
  simp only [isNameChar, isAlphanumeric, isLetter, isUpperLetter, isLowerLetter, isDigit, Bool.or_eq_true,
    Bool.and_eq_true, decide_eq_true_eq, beq_iff_eq, Char.le_def, UInt32.le_iff_toNat_le] at h
  rcases h with ((h | h) | h) | rfl
  · exact Or.inr (Or.inl h)
  · exact Or.inr (Or.inr (Or.inl h))
  · exact Or.inl h
  · exact Or.inr (Or.inr (Or.inr rfl))

theorem isBlank_of_isNameChar {c : Char} (h : isNameChar c = true) : isBlank c = false := by
  have hn := toNat_of_isNameChar h
  simp only [isBlank, Span.anyHas, blanks, List.any_eq_false, List.mem_cons, List.not_mem_nil, or_false]
  rintro s (rfl | rfl | rfl | rfl | rfl | rfl | rfl | rfl | rfl | rfl) <;>
    simp only [Span.has, Bool.and_eq_true, decide_eq_true_eq] <;> omega

/-! ## The case of letters -/

/-- Of the characters of names the letters of ASCII alone have a lower case. -/
theorem lowerMap_char {c : Char} (h : isNameChar c = true ∨ c = '\n') : lowerMap.char c = [lowerLetter c] := by
  have hall : ∀ n ∈ List.range 128, lowerMap.char (Char.ofNat n) = [lowerLetter (Char.ofNat n)] := by decide +kernel
  have hlt : c.toNat < 128 := by
    rcases h with h | rfl
    · have := toNat_of_isNameChar h; omega
    · decide
  have := hall c.toNat (List.mem_range.mpr hlt)
  rwa [Char.ofNat_toNat] at this

/-! ## The end of a name -/

/-- A text is what the checks look at, with or without a newline after it. -/
theorem nameEnd_cases (cs : List Char) : cs = nameEnd cs ∨ cs = nameEnd cs ++ ['\n'] := by
  rw [nameEnd]
  split
  · rename_i rest h
    exact Or.inr (by rw [← List.reverse_reverse cs, h]; simp)
  · exact Or.inl rfl

theorem nameEnd_eq_self {cs : List Char} (h : '\n' ∉ cs) : nameEnd cs = cs := by
  rcases nameEnd_cases cs with he | he
  · exact he.symm
  · exact absurd (he ▸ List.mem_append_right _ (List.mem_singleton_self _)) h

theorem mem_nameEnd {c : Char} {cs : List Char} (h : c ∈ cs) : c ∈ nameEnd cs ∨ c = '\n' := by
  rcases nameEnd_cases cs with he | he
  · exact Or.inl (he ▸ h)
  · rw [he] at h
    rcases List.mem_append.mp h with h | h
    · exact Or.inl h
    · exact Or.inr (List.mem_singleton.mp h)

theorem mem_identifier {s : String} (h : isIdentifier s = true) {c : Char} (hc : c ∈ s.toList) :
    isNameChar c = true ∨ c = '\n' :=
  (mem_nameEnd hc).imp_left ((mem_isNameChars h).2 c)

theorem not_mem_identifier {s : String} (h : isIdentifier s = true) {c : Char} (hc : isNameChar c = false)
    (hn : c ≠ '\n') : c ∉ s.toList := by
  intro hm
  rcases mem_identifier h hm with h | h
  · rw [hc] at h
    cases h
  · exact hn h

/-- Without a newline it is the letters of a name. -/
theorem isNameChars_of_identifier {s : String} (h : isIdentifier s = true) (hn : '\n' ∉ s.toList) :
    isNameChars s.toList = true := by
  rw [isIdentifier, nameEnd_eq_self hn] at h
  exact h

theorem isNameChars_append {w v : List Char} (hw : isNameChars w = true) (hv : ∀ c ∈ v, isNameChar c = true) :
    isNameChars (w ++ v) = true := by
  cases w with
  | nil => cases hw
  | cons c w =>
    simp only [isNameChars, Bool.and_eq_true, List.cons_append, List.all_append] at hw ⊢
    exact ⟨hw.1, hw.2, List.all_eq_true.mpr hv⟩

theorem not_isNameChars {cs : List Char} (hn : '\n' ∈ cs) : isNameChars cs = false :=
  Bool.eq_false_iff.mpr fun h => absurd ((mem_isNameChars h).2 _ hn) (by decide)

theorem mem_suffix {s : String} (h : isNameSuffix s = true) {c : Char} (hc : c ∈ s.toList) :
    isNameChar c = true ∨ c = '\n' :=
  (mem_nameEnd hc).imp_left (List.all_eq_true.mp h c)

/-! ## Snake case -/

theorem mem_mergeSeparators {c : Char} {cs : List Char} (h : c ∈ mergeSeparators cs) : c ∈ cs := by
  fun_induction mergeSeparators cs with
  | case1 rest ih => exact List.mem_cons_of_mem _ (ih h)
  | case2 d rest _ ih =>
    rcases List.mem_cons.mp h with rfl | h
    · exact List.mem_cons_self
    · exact List.mem_cons_of_mem _ (ih h)
  | case3 => exact h

theorem mem_stripSeparators {c : Char} {cs : List Char} (h : c ∈ stripSeparators cs) : c ∈ cs := by
  rw [stripSeparators, List.mem_reverse] at h
  have h := (List.dropWhile_sublist _).mem h
  rw [List.mem_reverse] at h
  exact (List.dropWhile_sublist _).mem h

theorem mem_separate {c : Char} {cs : List Char} (h : c ∈ separate cs) : isNameChar c = true := by
  obtain ⟨d, -, rfl⟩ := List.mem_map.mp h
  split
  · rename_i hd; simp [isNameChar, hd]
  · rfl

theorem isNameChar_lowerLetter {c : Char} (h : isNameChar c = true) : isNameChar (lowerLetter c) = true := by
  rw [lowerLetter]
  split
  · rename_i hu
    simp only [isUpperLetter, Bool.and_eq_true, decide_eq_true_eq, Char.le_def, UInt32.le_iff_toNat_le] at hu
    obtain ⟨n, hn, hlo, hhi⟩ : ∃ n, n = c.toNat ∧ 65 ≤ n ∧ n ≤ 90 := ⟨_, rfl, hu.1, hu.2⟩
    rw [← hn]
    have : ∀ n ∈ List.range 26, isNameChar (Char.ofNat (n + 65 + 32)) = true := by decide
    have := this (n - 65) (by simp; omega)
    rwa [Nat.sub_add_cancel hlo] at this
  · exact h

/-- The characters of a snake-case form are those of names. -/
theorem mem_snakeChars {c : Char} {cs : List Char} (h : c ∈ snakeChars cs) : isNameChar c = true := by
  obtain ⟨d, hd, rfl⟩ := List.mem_map.mp h
  exact isNameChar_lowerLetter (mem_separate (mem_mergeSeparators (mem_stripSeparators hd)))

theorem mem_snakeCase {s : String} {c : Char} (h : c ∈ (snakeCase s).toList) : isNameChar c = true := by
  rw [snakeCase, String.toList_ofList] at h
  exact mem_snakeChars h

end CrudQueries.Text
