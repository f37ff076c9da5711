/-
  CrudQueries.Proofs.Data.Json.Leaves — texts and numbers are read as they were written.

  The escaped form of each character is read as that character (`textBody_escapeChar`), so a text is read up to
  its closing quote whatever is in it (`readText_written`). The digits of a number do not begin with a zero,
  unless they are one, so they are read as that number if the text after them does not go on with it; a
  number of too many digits is refused (`readNumber_digits`).
-/

import CrudQueries.Data.Json.Reader
import CrudQueries.Data.Json.Writer

namespace CrudQueries.Data.Json

open CrudQueries.Text (isDigit digitsValue hexDigits)

variable {fuel n : Nat} {c : Char} {cs rest read : List Char}

/-! ## Texts -/

/-- The four digits of a control character are read as its number. -/
theorem unit?_hexDigits : ∀ n < 32,
    (match hexDigits 4 n with
      | [a, b, c, d] => unit? a b c d
      | _ => none) = some n := by
  decide

theorem escaped?_unit {n : Nat} (hn : n < 32) : escaped? ('u' :: hexDigits 4 n ++ rest) = some (Char.ofNat n, rest) := by
  have hunit := unit?_hexDigits n hn
  split at hunit
  · rename_i a b c d hdigits
    have hhigh : isHighHalf n = false := by
      unfold isHighHalf
      rw [Bool.and_eq_false_iff]
      exact .inl (by simpa using by omega)
    rw [hdigits]
    simp only [List.cons_append, List.nil_append, escaped?, hunit, hhigh, Bool.false_and, Option.bind_eq_bind,
      Option.bind_some]
    split
    · split <;> rfl
    · rfl
  · cases hunit

theorem textBody_escaped (h : escaped? cs = some (c, rest)) :
    textBody (fuel + 1) read ('\\' :: cs) = textBody fuel (c :: read) rest := by
  simp [textBody, h]

theorem textBody_plain (hquote : c ≠ '"') (hescape : c ≠ '\\') (hc : ¬ c.toNat < 0x20) :
    textBody (fuel + 1) read (c :: cs) = textBody fuel (c :: read) cs := by
  rw [textBody, if_neg hc]
  · exact hquote
  · exact hescape

/-- The escaped form of a character is read as that character. -/
theorem textBody_escapeChar (c : Char) (rest : List Char) :
    textBody (fuel + 1) read (escapeChar c ++ rest) = textBody fuel (c :: read) rest := by
  have hshort : ∀ e, shortEscape? e = some c → e ≠ 'u' →
      textBody (fuel + 1) read ('\\' :: e :: rest) = textBody fuel (c :: read) rest := by
    intro e he hu
    refine textBody_escaped ?_
    rw [escaped?, he]
    · rfl
    · exact fun _ _ _ _ _ h _ => hu h
  -- Seven characters have a short form, and other control characters four digits; the rest stand for themselves.
  by_cases hspecial : c ∈ ['"', '\\', '\n', '\r', '\t', '\x08', '\x0c']
  · simp only [List.mem_cons, List.not_mem_nil, or_false] at hspecial
    rcases hspecial with rfl | rfl | rfl | rfl | rfl | rfl | rfl
    all_goals exact hshort _ rfl (by decide)
  · simp only [List.mem_cons, List.not_mem_nil, or_false, not_or] at hspecial
    obtain ⟨hquote, hescape, h1, h2, h3, h4, h5⟩ := hspecial
    unfold escapeChar
    simp only [beq_iff_eq, hquote, hescape, h1, h2, h3, h4, h5, if_false]
    split
    · rename_i hc
      have hread : escaped? ('u' :: hexDigits 4 c.toNat ++ rest) = some (c, rest) := by
        rw [escaped?_unit hc, Char.ofNat_toNat]
      exact textBody_escaped hread
    · rename_i hc
      exact textBody_plain hquote hescape hc

theorem textBody_written (cs rest : List Char) (hfuel : cs.length < fuel) :
    textBody fuel read (cs.flatMap escapeChar ++ '"' :: rest) = some (read.reverse ++ cs, rest) := by
  induction cs generalizing fuel read with
  | nil =>
    obtain ⟨fuel, rfl⟩ := Nat.exists_eq_add_one.mpr hfuel
    rw [List.flatMap_nil, List.nil_append, textBody, List.append_nil]
  | cons c cs ih =>
    rw [List.length_cons] at hfuel
    obtain ⟨fuel, rfl⟩ := Nat.exists_eq_add_one.mpr (by omega : 0 < fuel)
    rw [List.flatMap_cons, List.append_assoc, textBody_escapeChar, ih (by omega), List.reverse_cons, List.append_assoc,
      List.singleton_append]

theorem length_escapeChar_pos (c : Char) : 1 ≤ (escapeChar c).length := by
  unfold escapeChar
  repeat' split
  all_goals exact Nat.le_add_left 1 _

theorem length_le_flatMap_escapeChar (cs : List Char) : cs.length ≤ (cs.flatMap escapeChar).length := by
  induction cs with
  | nil => exact Nat.le_refl 0
  | cons c cs ih =>
    have hpos := length_escapeChar_pos c
    rw [List.flatMap_cons, List.length_append, List.length_cons]
    omega

/-- A text is read up to its closing quote, whatever is in it. -/
theorem readText_written (s : String) (rest : List Char) :
    readText (s.toList.flatMap escapeChar ++ '"' :: rest) = .ok (s, rest) := by
  have hlength := length_le_flatMap_escapeChar s.toList
  rw [readText, textBody_written s.toList rest (by rw [List.length_append]; omega), List.reverse_nil, List.nil_append]
  simp only [String.ofList_toList]

/-! ## Numbers -/

theorem isDigit_iff : isDigit c = true ↔ c.isDigit = true := by
  simp [isDigit, Char.isDigit, Char.le_def, UInt32.le_iff_toNat_le]

theorem isDigit_of_mem_toDigits (h : c ∈ Nat.toDigits 10 n) : isDigit c = true :=
  isDigit_iff.mpr (Nat.isDigit_of_mem_toDigits (by decide) (by decide) h)

theorem digitsValue_toDigits (n : Nat) : digitsValue (Nat.toDigits 10 n) = n := by
  induction n using Nat.strongRecOn with
  | ind n ih =>
    by_cases hn : n < 10
    · rw [Nat.toDigits_of_lt_base hn]
      simp [digitsValue, Nat.toNat_digitChar_of_lt_ten hn]
    · have hvalue := ih (n / 10) (by omega)
      rw [Nat.toDigits_of_base_le (by decide) (by omega)]
      unfold digitsValue at hvalue ⊢
      rw [List.foldl_append, hvalue]
      have hlast : (n % 10).digitChar.toNat = 48 + n % 10 := Nat.toNat_digitChar_of_lt_ten (by omega)
      simp only [List.foldl_cons, List.foldl_nil, hlast]
      have hzero : '0'.toNat = 48 := rfl
      omega

/-- The digits of a number do not begin with a zero, unless it is one. -/
theorem head_toDigits (hn : 0 < n) : ∃ c cs, Nat.toDigits 10 n = c :: cs ∧ c ≠ '0' := by
  induction n using Nat.strongRecOn with
  | ind n ih =>
    by_cases hsmall : n < 10
    · rw [Nat.toDigits_of_lt_base hsmall]
      exact ⟨_, _, rfl, fun h => by rw [Nat.digitChar_eq_zero] at h; omega⟩
    · obtain ⟨c, cs, hcs, hc⟩ := ih (n / 10) (by omega) (by omega)
      rw [Nat.toDigits_of_base_le (by decide) (by omega), hcs]
      exact ⟨c, _, rfl, hc⟩

/-- The text does not go on with a number that stands before it. -/
def Closes (rest : List Char) : Prop := ∀ c ∈ rest.head?, isDigit c = false ∧ c ≠ '.' ∧ c ≠ 'e' ∧ c ≠ 'E'

theorem wholePart?_toDigits (n : Nat) (h : Closes rest) :
    wholePart? (Nat.toDigits 10 n ++ rest) = some (Nat.toDigits 10 n, rest) := by
  have hrest : rest.takeWhile isDigit = [] ∧ rest.dropWhile isDigit = rest := by
    cases rest with
    | nil => exact ⟨rfl, rfl⟩
    | cons c rest =>
      have hc : isDigit c = false := (h c rfl).1
      exact ⟨by simp [hc], by simp [hc]⟩
  rcases Nat.eq_zero_or_pos n with rfl | hn
  · rw [Nat.toDigits_zero]
    rfl
  · obtain ⟨c, cs, hcs, hc⟩ := head_toDigits hn
    have hall : ∀ d ∈ c :: cs, isDigit d = true := fun d hd => isDigit_of_mem_toDigits (hcs ▸ hd)
    have hfirst : isDigit c = true := hall c List.mem_cons_self
    have hothers : ∀ d ∈ cs, isDigit d = true := fun d hd => hall d (List.mem_cons_of_mem c hd)
    rw [hcs, List.cons_append, wholePart?, if_pos hfirst, ← List.cons_append, List.takeWhile_append_of_pos hall,
      List.dropWhile_append_of_pos hothers, hrest.1, hrest.2, List.append_nil]
    exact hc

/-- The digits of a whole number that are too many to be read. -/
def longDigits? (n : Int) : Option Nat :=
  let digits := (Nat.toDigits 10 n.natAbs).length
  if digits > digitLimit then some digits else none

/-- What is read, unless a number is too long. -/
def orLong {α : Type} (long : Option Nat) (found : α × List Char) : Read α :=
  match long with
  | none => .ok found
  | some digits => .error (.longNumber digits)

theorem fractionPart_of_closes (h : Closes rest) : fractionPart rest = ([], rest) := by
  rw [fractionPart.eq_def]
  split
  · exact absurd rfl (h '.' rfl).2.1
  · rfl

theorem exponentPart_of_closes (h : Closes rest) : exponentPart rest = (none, rest) := by
  cases rest with
  | nil => rfl
  | cons c rest =>
    obtain ⟨-, -, hsmall, hcapital⟩ := h c rfl
    simp [exponentPart, hsmall, hcapital]

/-- Digits are read as the number that they write, unless they are too many. -/
theorem readNumber_digits (negative : Bool) (n : Nat) (h : Closes rest) :
    readNumber negative (Nat.toDigits 10 n ++ rest) =
      orLong (longDigits? n) (.int (if negative then -(n : Int) else n), rest) := by
  simp only [readNumber, wholePart?_toDigits n h, fractionPart_of_closes h, exponentPart_of_closes h, longDigits?,
    digitsValue_toDigits, Int.natAbs_natCast, List.isEmpty_nil, Option.isNone_none, Bool.and_self, if_true]
  split <;> rfl

theorem toList_toString (n : Int) :
    (toString n).toList = (if n < 0 then ['-'] else []) ++ Nat.toDigits 10 n.natAbs := by
  cases n with
  | ofNat m => exact Nat.toList_repr
  | negSucc m =>
    have hminus : (toString (Int.negSucc m)).toList = '-' :: (Nat.repr (m + 1)).toList := String.toList_append
    rw [hminus, Nat.toList_repr, if_pos (Int.negSucc_lt_zero m)]
    rfl

theorem ne_of_isDigit (h : isDigit c = true) : c ≠ '"' ∧ c ≠ '[' ∧ c ≠ '{' ∧ c ≠ '-' ∧ c ≠ 'I' := by
  refine ⟨?_, ?_, ?_, ?_, ?_⟩ <;> (rintro rfl; revert h; decide)

/-- A number is read as it was written. -/
theorem readValue_int (n : Int) (h : Closes rest) :
    readValue (fuel + 1) ((toString n).toList ++ rest) = orLong (longDigits? n) (.int n, rest) := by
  obtain ⟨c, cs, hcs⟩ := List.exists_cons_of_ne_nil (Nat.toDigits_ne_nil (n := n.natAbs) (b := 10))
  have hc : isDigit c = true := isDigit_of_mem_toDigits (hcs ▸ List.mem_cons_self)
  obtain ⟨h1, h2, h3, h4, h5⟩ := ne_of_isDigit hc
  have hlong : longDigits? (n.natAbs : Int) = longDigits? n := by
    unfold longDigits?
    rw [Int.natAbs_natCast]
  rw [toList_toString]
  -- The reader knows a number by its first character, a sign or a digit.
  by_cases hn : n < 0
  · have hread : readValue (fuel + 1) ('-' :: (Nat.toDigits 10 n.natAbs ++ rest)) =
        readNumber true (Nat.toDigits 10 n.natAbs ++ rest) := by
      rw [hcs, List.cons_append, readValue]
      exact fun _ hI => h5 (List.cons.inj hI).1
    have hvalue : -(n.natAbs : Int) = n := by omega
    rw [if_pos hn, List.singleton_append, List.cons_append, hread, readNumber_digits true _ h, hlong, if_pos rfl, hvalue]
  · have hread : readValue (fuel + 1) (Nat.toDigits 10 n.natAbs ++ rest) =
        readNumber false (Nat.toDigits 10 n.natAbs ++ rest) := by
      rw [hcs, List.cons_append, readValue, if_pos hc]
      · exact h1
      · exact h2
      · exact h3
      · exact h4
    have hvalue : (n.natAbs : Int) = n := by omega
    rw [if_neg hn, List.nil_append, hread, readNumber_digits false _ h, hlong, if_neg Bool.false_ne_true, hvalue]

theorem readValue_text (s : String) (rest : List Char) :
    readValue (fuel + 1) (writeText s ++ rest) = .ok (.text s, rest) := by
  have hwritten : writeText s ++ rest = '"' :: (s.toList.flatMap escapeChar ++ '"' :: rest) := by simp [writeText]
  rw [hwritten, readValue, readText_written]
  rfl

theorem readValue_null (rest : List Char) :
    readValue (fuel + 1) (['n', 'u', 'l', 'l'] ++ rest) = .ok (.null, rest) := rfl

theorem readValue_bool (b : Bool) (rest : List Char) :
    readValue (fuel + 1) ((if b then ['t', 'r', 'u', 'e'] else ['f', 'a', 'l', 's', 'e']) ++ rest) =
      .ok (.bool b, rest) := by
  cases b <;> rfl

end CrudQueries.Data.Json
