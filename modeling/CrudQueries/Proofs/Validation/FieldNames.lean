/-
  CrudQueries.Proofs.Validation.FieldNames — the field names that pass.

  A name that passes is a word of ASCII letters, digits and underscores, or such a word and one newline after it
  (`toList_cases`): the checks look for letters in the word alone, and compare the name as a whole. Whatever stops at
  blanks or leaves them out sees the word (`takeWhile_identifier`, `trimBlanks_identifier`). If malformed positions
  are not coerced, a type without errors has such names at all positions (`accepted_fieldNames`).
-/

import CrudQueries.Proofs.Validation.Flaw

namespace CrudQueries.Validation

open CrudQueries.Text

/-- A name without the newline at its end. -/
def word (name : String) : String := String.ofList (nameEnd name.toList)

variable {name : String}

theorem toList_word (name : String) : (word name).toList = nameEnd name.toList := String.toList_ofList

theorem toList_cases (name : String) :
    name.toList = (word name).toList ∨ name.toList = (word name).toList ++ ['\n'] := by
  rw [toList_word]
  exact nameEnd_cases name.toList

/-- The word of a name that passes is not empty, and its characters are those of names. -/
theorem mem_word (h : isIdentifier name = true) :
    (word name).toList ≠ [] ∧ ∀ c ∈ (word name).toList, isNameChar c = true := by
  rw [toList_word]
  exact mem_isNameChars h

theorem newline_not_mem_word (h : isIdentifier name = true) : '\n' ∉ (word name).toList := by
  intro hm
  exact absurd ((mem_word h).2 _ hm) (by decide)

theorem isIdentifier_word (h : isIdentifier name = true) : isIdentifier (word name) = true := by
  rw [isIdentifier, nameEnd_eq_self (newline_not_mem_word h), toList_word]
  exact h

/-! ## What others see of a name -/

theorem takeWhile_of_stop {rest : List Char} (h : rest.head?.all (!isNameChar ·) = true) : rest.takeWhile isNameChar = [] := by
  cases rest with
  | nil => rfl
  | cons c rest =>
    have hc : isNameChar c = false := by simpa using h
    rw [List.takeWhile_cons_of_neg (by simp [hc])]

/-- Read up to the first character that is none of a name's, a name is its word. -/
theorem takeWhile_identifier (h : isIdentifier name = true) {rest : List Char} (hrest : rest.head?.all (!isNameChar ·) = true) :
    (name.toList ++ rest).takeWhile isNameChar = (word name).toList := by
  have hword := (mem_word h).2
  rcases toList_cases name with he | he
  · rw [he, List.takeWhile_append_of_pos hword, takeWhile_of_stop hrest, List.append_nil]
  · have hnewline : (['\n'] ++ rest).takeWhile isNameChar = [] := takeWhile_of_stop rfl
    rw [he, List.append_assoc, List.takeWhile_append_of_pos hword, hnewline, List.append_nil]

theorem dropWhile_isBlank {cs : List Char} (hne : cs ≠ []) (h : ∀ c ∈ cs, isNameChar c = true) (rest : List Char) :
    (cs ++ rest).dropWhile isBlank = cs ++ rest := by
  cases cs with
  | nil => exact absurd rfl hne
  | cons c cs =>
    have hc : isBlank c = false := isBlank_of_isNameChar (h c List.mem_cons_self)
    rw [List.cons_append, List.dropWhile_cons_of_neg (by simp [hc])]

/-- Without the blanks around it, a name is its word. -/
theorem trimBlanks_identifier (h : isIdentifier name = true) : trimBlanks name.toList = (word name).toList := by
  obtain ⟨hne, hword⟩ := mem_word h
  have hfront := dropWhile_isBlank hne hword
  have hback : (word name).toList.reverse.dropWhile isBlank = (word name).toList.reverse := by
    have hkept := dropWhile_isBlank (List.reverse_ne_nil_iff.mpr hne) (fun c hc => hword c (List.mem_reverse.mp hc)) []
    rwa [List.append_nil] at hkept
  rw [trimBlanks]
  rcases toList_cases name with he | he
  · have hkept := hfront []
    rw [List.append_nil] at hkept
    rw [he, hkept, hback, List.reverse_reverse]
  · rw [he, hfront, List.reverse_append, List.reverse_singleton, List.singleton_append,
      List.dropWhile_cons_of_pos (by decide), hback, List.reverse_reverse]

/-! ## Types without errors -/

variable {s : Settings} {e : Entity} {index : Nat}

theorem wellFormedFields_eq (h : e.malformed = []) : wellFormedFields e = e.fields := by
  simp [wellFormedFields, h]

/-- If malformed positions are errors, all fields of a type without errors are names that no statement manages. -/
theorem accepted_fieldNames (hc : s.coerceMalformed = false) (h : (checkEntity index e s).hasErrors = false) :
    ∀ f ∈ e.fields, isIdentifier f = true ∧ isManaged f = false := by
  intro f hf
  have haccepted := accepted_entity index h
  have hmalformed : e.malformed = [] := by
    by_contra hne
    have hcoerced := haccepted.coerced (List.ne_nil_of_mem hf) hne
    rw [hc] at hcoerced
    cases hcoerced
  apply haccepted.fields
  rw [wellFormedFields_eq hmalformed]
  exact hf

end CrudQueries.Validation
