/-
  CrudQueries.Proofs.Text.OnePass — the snake-case form of a name, said in one pass.

  The passes of the conversion together do what can be said of each character with the two beside it: a word begins at
  a capital after a small letter or a digit, and at a capital between a capital and a small letter (`beginsWord`,
  `mark_mark`), and merging and stripping the separators leaves one between two words (`strip_merge`). So the form is
  the words of one pass, joined (`snakeChars_eq`). What is written in that pass are small letters, digits and
  separators (`mem_onePass`), of which the first two are those of the name (`filter_onePass`), and what is written
  already stays as it is (`onePass_eq_self`).
-/

import CrudQueries.Proofs.Text.Lines
import CrudQueries.Proofs.Text.Words
import Mathlib.Data.List.DropRight

namespace CrudQueries.Text

variable {c : Char} {cs : List Char} {before : Option Char}

/-! ## Letters -/

theorem toNat_of_isUpperLetter (h : isUpperLetter c = true) : 65 ≤ c.toNat ∧ c.toNat ≤ 90 := by
  simpa [isUpperLetter, Char.le_def, UInt32.le_iff_toNat_le] using h

theorem toNat_of_isLowerLetter (h : isLowerLetter c = true) : 97 ≤ c.toNat ∧ c.toNat ≤ 122 := by
  simpa [isLowerLetter, Char.le_def, UInt32.le_iff_toNat_le] using h

theorem toNat_of_isDigit (h : isDigit c = true) : 48 ≤ c.toNat ∧ c.toNat ≤ 57 := by
  simpa [isDigit, Char.le_def, UInt32.le_iff_toNat_le] using h

theorem isLowerLetter_of_isUpperLetter (h : isUpperLetter c = true) : isLowerLetter c = false := by
  have hu := toNat_of_isUpperLetter h
  refine Bool.eq_false_iff.mpr fun hl => ?_
  have hl := toNat_of_isLowerLetter hl
  omega

theorem isDigit_of_isUpperLetter (h : isUpperLetter c = true) : isDigit c = false := by
  have hu := toNat_of_isUpperLetter h
  refine Bool.eq_false_iff.mpr fun hd => ?_
  have hd := toNat_of_isDigit hd
  omega

theorem lowerLetter_of_not_upper (h : isUpperLetter c = false) : lowerLetter c = c := by
  rw [lowerLetter, h, if_neg Bool.false_ne_true]

/-- What is written for a capital is its small letter. -/
theorem isLowerLetter_lowerLetter (h : isUpperLetter c = true) : isLowerLetter (lowerLetter c) = true := by
  obtain ⟨hlo, hhi⟩ := toNat_of_isUpperLetter h
  have hall : ∀ n ∈ List.range 26, isLowerLetter (Char.ofNat (n + 65 + 32)) = true := by decide
  have hone := hall (c.toNat - 65) (by rw [List.mem_range]; omega)
  rw [Nat.sub_add_cancel hlo] at hone
  rwa [lowerLetter, if_pos h]

theorem lowerLetter_cases (h : isAlphanumeric c = true) :
    isLowerLetter (lowerLetter c) = true ∨ isDigit (lowerLetter c) = true := by
  cases hu : isUpperLetter c with
  | true => exact Or.inl (isLowerLetter_lowerLetter hu)
  | false => simpa [isAlphanumeric, isLetter, hu, lowerLetter_of_not_upper hu] using h

theorem isAlphanumeric_lowerLetter (h : isAlphanumeric c = true) : isAlphanumeric (lowerLetter c) = true := by
  rcases lowerLetter_cases h with h | h <;> simp [isAlphanumeric, isLetter, h]

theorem not_upper_of_cases (h : isLowerLetter c = true ∨ isDigit c = true) : isUpperLetter c = false := by
  refine Bool.eq_false_iff.mpr fun hu => ?_
  rcases h with h | h
  · rw [isLowerLetter_of_isUpperLetter hu] at h
    cases h
  · rw [isDigit_of_isUpperLetter hu] at h
    cases h

/-! ## Where words begin -/

/-- The characters with a separator before each at which a word begins, as it and those beside it say. -/
def mark (begins : Option Char → Char → Option Char → Bool) (before : Option Char) : List Char → List Char
  | [] => []
  | c :: rest =>
    if begins before c rest.head? then '_' :: c :: mark begins (some c) rest else c :: mark begins (some c) rest

/-- A capital after a capital, with a small letter after it. -/
def endsAcronym (before : Option Char) (c : Char) (after : Option Char) : Bool :=
  isUpperLetter c && before.any isUpperLetter && after.any isLowerLetter

/-- A capital after a small letter or a digit. -/
def followsWord (before : Option Char) (c : Char) (_ : Option Char) : Bool :=
  isUpperLetter c && before.any fun b => isLowerLetter b || isDigit b

/-- A word begins at a capital in one of the two places. -/
def beginsWord (before : Option Char) (c : Char) (after : Option Char) : Bool :=
  isUpperLetter c &&
    (before.any (fun b => isLowerLetter b || isDigit b) || before.any isUpperLetter && after.any isLowerLetter)

variable {begins : Option Char → Char → Option Char → Bool} {after : Option Char} {rest : List Char}

theorem mark_cons_of_not (h : begins before c rest.head? = false) :
    mark begins before (c :: rest) = c :: mark begins (some c) rest := by
  rw [mark, h, if_neg Bool.false_ne_true]

theorem mark_cons_of (h : begins before c rest.head? = true) :
    mark begins before (c :: rest) = '_' :: c :: mark begins (some c) rest := by
  rw [mark, if_pos h]

theorem beginsWord_of_not_upper (h : isUpperLetter c = false) : beginsWord before c after = false := by
  rw [beginsWord, h, Bool.false_and]

theorem partAcronyms_eq_mark (cs : List Char) : partAcronyms cs = mark endsAcronym none cs := by
  have hfirst : ∀ c after, endsAcronym none c after = false := by simp [endsAcronym]
  fun_induction partAcronyms cs with
  | case1 a b c rest h ih =>
    obtain ⟨⟨ha, hb⟩, hc⟩ : (isUpperLetter a = true ∧ isUpperLetter b = true) ∧ isLowerLetter c = true := by simpa using h
    have hnot : ∀ before after, endsAcronym before c after = false := by
      simp [endsAcronym, not_upper_of_cases (Or.inl hc)]
    rw [mark_cons_of_not (hfirst _ _), mark_cons_of (by simp [endsAcronym, ha, hb, hc]), mark_cons_of_not (hnot _ _), ih]
    -- A small letter before it marks the rest as the start of the text does.
    cases rest with
    | nil => rfl
    | cons d rest =>
      have hd : ∀ after, endsAcronym (some c) d after = false := by
        simp [endsAcronym, not_upper_of_cases (Or.inl hc)]
      rw [mark_cons_of_not (hfirst _ _), mark_cons_of_not (hd _)]
  | case2 a b c rest h ih =>
    have hnot : endsAcronym (some a) b (c :: rest).head? = false := by
      refine Bool.eq_false_iff.mpr fun hm => h ?_
      simp only [endsAcronym, List.head?_cons, Option.any_some, Bool.and_eq_true] at hm
      simp [hm.1.1, hm.1.2, hm.2]
    rw [ih, mark_cons_of_not (hfirst _ _), mark_cons_of_not (hfirst _ _), mark_cons_of_not hnot]
  | case3 cs h =>
    rcases cs with _ | ⟨a, _ | ⟨b, _ | ⟨c, rest⟩⟩⟩
    · rfl
    · rw [mark_cons_of_not (hfirst _ _)]
      rfl
    · rw [mark_cons_of_not (hfirst _ _), mark_cons_of_not (by simp [endsAcronym])]
      rfl
    · exact absurd rfl (h a b c rest)

theorem partWords_eq_mark (cs : List Char) : partWords cs = mark followsWord none cs := by
  have hfirst : ∀ c after, followsWord none c after = false := by simp [followsWord]
  fun_induction partWords cs with
  | case1 a b rest h ih =>
    obtain ⟨ha, hb⟩ : (isLowerLetter a = true ∨ isDigit a = true) ∧ isUpperLetter b = true := by simpa using h
    rw [mark_cons_of_not (hfirst _ _), mark_cons_of (by simp [followsWord, ha, hb]), ih]
    -- So does a capital.
    cases rest with
    | nil => rfl
    | cons d rest =>
      have hd : ∀ after, followsWord (some b) d after = false := by
        simp [followsWord, isLowerLetter_of_isUpperLetter hb, isDigit_of_isUpperLetter hb]
      rw [mark_cons_of_not (hfirst _ _), mark_cons_of_not (hd _)]
  | case2 a b rest h ih =>
    have hnot : ∀ after, followsWord (some a) b after = false := by
      intro after
      refine Bool.eq_false_iff.mpr fun hm => h ?_
      simpa [followsWord, and_comm] using hm
    rw [ih, mark_cons_of_not (hfirst _ _), mark_cons_of_not (hfirst _ _), mark_cons_of_not (hnot _)]
  | case3 cs h =>
    rcases cs with _ | ⟨a, _ | ⟨b, rest⟩⟩
    · rfl
    · rw [mark_cons_of_not (hfirst _ _)]
      rfl
    · exact absurd rfl (h a b rest)

/-- No word begins at a separator or, for the second pass, after one. -/
theorem mark_mark (before : Option Char) (cs : List Char) :
    mark followsWord before (mark endsAcronym before cs) = mark beginsWord before cs := by
  induction cs generalizing before with
  | nil => rfl
  | cons c cs ih =>
    cases he : endsAcronym before c cs.head? with
    | true =>
      have hbegins : beginsWord before c cs.head? = true := by
        simp only [endsAcronym, Bool.and_eq_true] at he
        simp [beginsWord, he.1.1, he.1.2, he.2]
      -- The second pass finds no word at the separator that the first has put, nor after it.
      have hseparator : ∀ after, followsWord before '_' after = false := fun after => rfl
      have hnext : ∀ after, followsWord (some '_') c after = false := by simp [followsWord, isLowerLetter, isDigit]
      rw [mark_cons_of he, mark_cons_of_not (hseparator _), mark_cons_of_not (hnext _), mark_cons_of hbegins, ih]
    | false =>
      have hbegins : beginsWord before c cs.head? = followsWord before c (mark endsAcronym (some c) cs).head? := by
        rw [beginsWord, followsWord]
        cases hu : isUpperLetter c with
        | false => rfl
        | true =>
          have hnone : (before.any isUpperLetter && cs.head?.any isLowerLetter) = false := by
            rwa [endsAcronym, hu, Bool.true_and] at he
          rw [hnone, Bool.or_false]
      rw [mark_cons_of_not he]
      cases hf : followsWord before c (mark endsAcronym (some c) cs).head? with
      | true => rw [mark_cons_of hf, mark_cons_of (hbegins.trans hf), ih]
      | false => rw [mark_cons_of_not hf, mark_cons_of_not (hbegins.trans hf), ih]

/-! ## One pass -/

/-- A letter or digit in lower case; any other character is a separator. -/
def written (c : Char) : Char := if isAlphanumeric c then lowerLetter c else '_'

/-- The characters as they are written, with a separator before each word. -/
def onePass (before : Option Char) : List Char → List Char
  | [] => []
  | c :: rest =>
    if beginsWord before c rest.head? then '_' :: written c :: onePass (some c) rest
    else written c :: onePass (some c) rest

/-- The words between separators, without empty ones, one separator between them. -/
def joinWords (cs : List Char) : List Char := ['_'].intercalate ((splitOnChar '_' cs).filter (!·.isEmpty))

theorem onePass_eq (before : Option Char) (cs : List Char) :
    (separate (mark beginsWord before cs)).map lowerLetter = onePass before cs := by
  have hwritten : ∀ c, lowerLetter (if isAlphanumeric c then c else '_') = written c := by
    intro c
    rw [written]
    split <;> rfl
  induction cs generalizing before with
  | nil => rfl
  | cons c cs ih =>
    rw [onePass, ← ih, ← hwritten]
    cases hb : beginsWord before c cs.head? with
    | true =>
      rw [mark_cons_of hb]
      rfl
    | false =>
      rw [mark_cons_of_not hb]
      rfl

/-! ## Words -/

theorem filter_splitOnChar_eq_nil {cs : List Char} :
    (splitOnChar '_' cs).filter (!·.isEmpty) = [] ↔ joinWords cs = [] := by
  rw [joinWords]
  constructor
  · intro h
    rw [h]
    rfl
  · intro h
    by_contra hne
    obtain ⟨word, words, hwords⟩ := List.exists_cons_of_ne_nil hne
    have hword : word ≠ [] := by
      have hm : word ∈ (splitOnChar '_' cs).filter (!·.isEmpty) := hwords ▸ List.mem_cons_self
      simpa using (List.mem_filter.mp hm).2
    rw [hwords] at h
    cases words with
    | nil => exact hword (by simpa [List.intercalate_singleton] using h)
    | cons next words => simp [List.intercalate_cons_cons] at h

/-- Separators at the head come to nothing. A character keeps the separators after it as one, if a word follows. -/
theorem joinWords_cons (c : Char) (cs : List Char) :
    joinWords (c :: cs) =
      if c = '_' then joinWords cs
      else if cs.head? = some '_' ∧ joinWords cs ≠ [] then c :: '_' :: joinWords cs else c :: joinWords cs := by
  by_cases hc : c = '_'
  · rw [if_pos hc, joinWords, splitOnChar, if_pos (beq_iff_eq.mpr hc), List.filter_cons_of_neg (by simp)]
    rfl
  obtain ⟨word, words, hsplit⟩ := List.exists_cons_of_ne_nil (splitOnChar_ne_nil '_' cs)
  have hcons : joinWords (c :: cs) = ['_'].intercalate ((c :: word) :: words.filter (!·.isEmpty)) := by
    rw [joinWords, splitOnChar, if_neg (by simpa using hc), hsplit, List.filter_cons_of_pos (by simp)]
  rw [if_neg hc, hcons]
  cases cs with
  | nil =>
    obtain ⟨rfl, rfl⟩ : [] = word ∧ [] = words := by simpa [splitOnChar] using hsplit
    rfl
  | cons d cs =>
    by_cases hd : d = '_'
    · -- Nothing of the first word is left, so it is the one before the separator.
      rw [splitOnChar, if_pos (beq_iff_eq.mpr hd)] at hsplit
      obtain ⟨rfl, rfl⟩ := List.cons.inj hsplit
      have hjoin : joinWords (d :: cs) = joinWords cs := by
        rw [joinWords, splitOnChar, if_pos (beq_iff_eq.mpr hd), List.filter_cons_of_neg (by simp)]
        rfl
      rw [hjoin, hd]
      by_cases hnone : joinWords cs = []
      · rw [filter_splitOnChar_eq_nil.mpr hnone, if_neg (by simp [hnone]), hnone]
        rfl
      · obtain ⟨next, others, hwords⟩ := List.exists_cons_of_ne_nil (mt filter_splitOnChar_eq_nil.mp hnone)
        rw [if_pos ⟨rfl, hnone⟩, joinWords, hwords, List.intercalate_cons_cons]
        rfl
    · have hword : word ≠ [] := by
        rw [splitOnChar, if_neg (by simpa using hd)] at hsplit
        split at hsplit
        · rw [← (List.cons.inj hsplit).1]
          exact List.cons_ne_nil _ _
        · rw [← (List.cons.inj hsplit).1]
          exact List.cons_ne_nil _ _
      rw [if_neg (by simp [hd]), joinWords, hsplit, List.filter_cons_of_pos (by simpa using hword)]
      cases words.filter (!·.isEmpty) with
      | nil => simp [List.intercalate_singleton]
      | cons next others => simp [List.intercalate_cons_cons]

theorem joinWords_map {f : Char → Char} (hf : ∀ c, f c = '_' ↔ c = '_') (cs : List Char) :
    joinWords (cs.map f) = (joinWords cs).map f := by
  induction cs with
  | nil => rfl
  | cons c cs ih =>
    have hhead : (cs.map f).head? = some '_' ↔ cs.head? = some '_' := by
      cases cs with
      | nil => rfl
      | cons d cs => simp [hf]
    have hsep : f '_' = '_' := (hf '_').mpr rfl
    rw [List.map_cons, joinWords_cons, joinWords_cons, ih]
    simp only [hf, hhead, ne_eq, List.map_eq_nil_iff]
    split
    · rfl
    · split
      · rw [List.map_cons, List.map_cons, hsep]
      · rfl

theorem joinWords_joinWords (cs : List Char) : joinWords (joinWords cs) = joinWords cs := by
  by_cases hnone : (splitOnChar '_' cs).filter (!·.isEmpty) = []
  · rw [filter_splitOnChar_eq_nil.mp hnone]
    rfl
  · have hwords : ∀ word ∈ (splitOnChar '_' cs).filter (!·.isEmpty), '_' ∉ word := fun word hm =>
      (mem_splitOnChar (List.mem_filter.mp hm).1).1
    conv_lhs => rw [joinWords]
    rw [joinWords, splitOnChar_intercalate _ hnone, flatMap_splitOnChar hwords, List.filter_filter]
    simp

theorem filter_joinWords {keep : Char → Bool} (hsep : keep '_' = false) (cs : List Char) :
    (joinWords cs).filter keep = cs.filter keep := by
  induction cs with
  | nil => rfl
  | cons c cs ih =>
    rw [joinWords_cons]
    split
    · rename_i hc
      rw [ih, hc, List.filter_cons_of_neg (by simp [hsep])]
    · split
      · rw [List.filter_cons, List.filter_cons_of_neg (by simp [hsep]), ih, List.filter_cons]
      · rw [List.filter_cons, ih, List.filter_cons]

theorem mem_joinWords (h : c ∈ joinWords cs) : c ∈ cs := by
  induction cs with
  | nil => cases h
  | cons d cs ih =>
    rw [joinWords_cons] at h
    split at h
    · exact List.mem_cons_of_mem _ (ih h)
    split at h
    · rename_i hnext
      rcases List.mem_cons.mp h with rfl | h
      · exact List.mem_cons_self
      rcases List.mem_cons.mp h with rfl | h
      · exact List.mem_cons_of_mem _ (List.mem_of_head? hnext.1)
      · exact List.mem_cons_of_mem _ (ih h)
    · rcases List.mem_cons.mp h with rfl | h
      · exact List.mem_cons_self
      · exact List.mem_cons_of_mem _ (ih h)

/-! ## Runs of separators -/

theorem mergeSeparators_separator (cs : List Char) :
    mergeSeparators ('_' :: cs) = '_' :: mergeSeparators (cs.dropWhile (· == '_')) := by
  induction cs with
  | nil => rfl
  | cons c cs ih =>
    by_cases hc : c = '_'
    · rw [hc, mergeSeparators, ih, List.dropWhile_cons_of_pos (by simp)]
    · rw [mergeSeparators, List.dropWhile_cons_of_neg (by simpa using hc)]
      simpa using hc

theorem mergeSeparators_cons (hc : c ≠ '_') (cs : List Char) : mergeSeparators (c :: cs) = c :: mergeSeparators cs := by
  rw [mergeSeparators]
  rintro rest rfl
  exact absurd rfl hc

theorem dropWhile_mergeSeparators (cs : List Char) :
    (mergeSeparators cs).dropWhile (· == '_') = mergeSeparators (cs.dropWhile (· == '_')) := by
  have hother : ∀ {ds : List Char}, ds.head? ≠ some '_' → (mergeSeparators ds).dropWhile (· == '_') = mergeSeparators ds := by
    intro ds hd
    cases ds with
    | nil => rfl
    | cons d ds =>
      have hd : d ≠ '_' := by simpa using hd
      rw [mergeSeparators_cons hd, List.dropWhile_cons_of_neg (by simpa using hd)]
  have hrest : (cs.dropWhile (· == '_')).head? ≠ some '_' := by
    intro h
    have := List.head?_dropWhile_not (· == '_') cs
    rw [h] at this
    cases this
  cases cs with
  | nil => rfl
  | cons c cs =>
    by_cases hc : c = '_'
    · rw [List.dropWhile_cons_of_pos (by simpa using hc)] at hrest
      rw [hc, mergeSeparators_separator, List.dropWhile_cons_of_pos (by simp), hother hrest,
        List.dropWhile_cons_of_pos (by simp)]
    · have hkept : (c :: cs).dropWhile (· == '_') = c :: cs := List.dropWhile_cons_of_neg (by simpa using hc)
      rw [hkept, hother (by simpa using hc)]

theorem rdropWhile_cons (p : Char → Bool) (c : Char) (cs : List Char) :
    (c :: cs).rdropWhile p = if cs.rdropWhile p = [] ∧ p c = true then [] else c :: cs.rdropWhile p := by
  simp only [List.rdropWhile, List.reverse_cons, List.dropWhile_append, List.isEmpty_iff, List.reverse_eq_nil_iff]
  by_cases hnone : cs.reverse.dropWhile p = []
  · cases hp : p c <;> simp [hnone, hp]
  · simp [hnone]

/-- Merged and stripped, separators are what stands between words. -/
theorem strip_merge (cs : List Char) : stripSeparators (mergeSeparators cs) = joinWords cs := by
  have hstrip : ∀ ds, stripSeparators (mergeSeparators ds) =
      (mergeSeparators (ds.dropWhile (· == '_'))).rdropWhile (· == '_') := by
    intro ds
    rw [← dropWhile_mergeSeparators]
    rfl
  induction cs with
  | nil => rfl
  | cons c cs ih =>
    rw [joinWords_cons]
    by_cases hc : c = '_'
    · rw [if_pos hc, ← ih, hstrip, hstrip, List.dropWhile_cons_of_pos (by simpa using hc)]
    rw [if_neg hc, ← ih, hstrip, List.dropWhile_cons_of_neg (by simpa using hc), mergeSeparators_cons hc, rdropWhile_cons,
      if_neg (by simp [hc])]
    cases cs with
    | nil => rfl
    | cons d ds =>
      by_cases hd : d = '_'
      · rw [hstrip, hd, mergeSeparators_separator, rdropWhile_cons, List.dropWhile_cons_of_pos (by simp)]
        by_cases hnone : (mergeSeparators (ds.dropWhile (· == '_'))).rdropWhile (· == '_') = []
        · rw [if_pos ⟨hnone, rfl⟩, if_neg (fun h => h.2 hnone), hnone]
        · rw [if_neg (fun h => hnone h.1), if_pos ⟨rfl, hnone⟩]
      · rw [if_neg (by simp [hd]), hstrip, List.dropWhile_cons_of_neg (by simpa using hd)]

/-! ## The form in one pass -/

theorem snakeChars_eq (cs : List Char) : snakeChars cs = joinWords (onePass none cs) := by
  have hlower : ∀ c, lowerLetter c = '_' ↔ c = '_' := by
    intro c
    cases hu : isUpperLetter c with
    | false => rw [lowerLetter_of_not_upper hu]
    | true =>
      constructor
      · intro h
        have hl := isLowerLetter_lowerLetter hu
        rw [h] at hl
        cases hl
      · rintro rfl
        cases hu
  rw [snakeChars, strip_merge, ← joinWords_map hlower, partAcronyms_eq_mark, partWords_eq_mark, mark_mark, onePass_eq]

/-- What is written is a small letter, a digit or a separator. -/
theorem mem_onePass (h : c ∈ onePass before cs) : isLowerLetter c = true ∨ isDigit c = true ∨ c = '_' := by
  induction cs generalizing before with
  | nil => cases h
  | cons d cs ih =>
    have hwritten : c = written d → isLowerLetter c = true ∨ isDigit c = true ∨ c = '_' := by
      rintro rfl
      rw [written]
      split
      · rename_i hd
        exact (lowerLetter_cases hd).imp_right Or.inl
      · exact Or.inr (Or.inr rfl)
    rw [onePass] at h
    split at h
    · rcases List.mem_cons.mp h with rfl | h
      · exact Or.inr (Or.inr rfl)
      · exact (List.mem_cons.mp h).elim hwritten ih
    · exact (List.mem_cons.mp h).elim hwritten ih

theorem filter_onePass (before : Option Char) (cs : List Char) :
    (onePass before cs).filter isAlphanumeric = (cs.filter isAlphanumeric).map lowerLetter := by
  induction cs generalizing before with
  | nil => rfl
  | cons c cs ih =>
    have hstep : (written c :: onePass (some c) cs).filter isAlphanumeric =
        ((c :: cs).filter isAlphanumeric).map lowerLetter := by
      rw [written]
      cases hc : isAlphanumeric c with
      | true =>
        rw [if_pos rfl, List.filter_cons_of_pos (isAlphanumeric_lowerLetter hc), List.filter_cons_of_pos hc, ih]
        rfl
      | false =>
        rw [if_neg Bool.false_ne_true, List.filter_cons_of_neg (by decide), List.filter_cons_of_neg (by simp [hc]), ih]
    rw [onePass]
    split
    · rw [List.filter_cons_of_neg (by decide), hstep]
    · rw [hstep]

/-- What is written already stays as it is. -/
theorem onePass_eq_self (h : ∀ c ∈ cs, isLowerLetter c = true ∨ isDigit c = true ∨ c = '_') (before : Option Char) :
    onePass before cs = cs := by
  induction cs generalizing before with
  | nil => rfl
  | cons c cs ih =>
    have hc := h c List.mem_cons_self
    have hupper : isUpperLetter c = false := by
      rcases hc with hc | hc | rfl
      · exact not_upper_of_cases (Or.inl hc)
      · exact not_upper_of_cases (Or.inr hc)
      · rfl
    have hwritten : written c = c := by
      rw [written]
      rcases hc with hc | hc | rfl
      · rw [if_pos (by simp [isAlphanumeric, isLetter, hc]), lowerLetter_of_not_upper hupper]
      · rw [if_pos (by simp [isAlphanumeric, hc]), lowerLetter_of_not_upper hupper]
      · rfl
    rw [onePass, beginsWord_of_not_upper hupper, if_neg Bool.false_ne_true, hwritten,
      ih fun d hd => h d (List.mem_cons_of_mem _ hd)]

end CrudQueries.Text
