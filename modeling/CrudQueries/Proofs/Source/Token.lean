/-
  CrudQueries.Proofs.Source.Token — one token at the head of a text.

  A word is read up to the first character that cannot go on (`token_word`), a quoted text with or
  without the letter of a formatted literal up to its last quote (`token_quoted`,
  `token_formatted`), and a text between triple quotes up to the next quotes (`token_long`).
-/

import CrudQueries.Proofs.Source.Literal
import CrudQueries.Proofs.Text.Words

namespace CrudQueries.Source.Lexer

open CrudQueries.Text (isNameStart isNameChar isNameChars mem_isNameChars toNat_of_isNameChar)
open CrudQueries.Text.Quoted (escape)

/-! ## Words -/

theorem mayContinueName_of_isNameChar {c : Char} (h : isNameChar c = true) : Numeral.mayContinueName c = true := by
  simp only [isNameChar] at h
  simp [Numeral.mayContinueName, h]

theorem mayStartName_of_isNameStart {c : Char} (h : isNameStart c = true) : mayStartName c = true := by
  simp only [isNameStart] at h
  simp [mayStartName, h]

theorem isName_of_isNameChars {w : List Char} (h : isNameChars w = true) : isName w = true := by
  cases w with
  | nil => simp [isNameChars] at h
  | cons c w =>
    have hall := (mem_isNameChars h).2
    simp only [isNameChars, Bool.and_eq_true] at h
    have ascii : ∀ d, isNameChar d = true → d.toNat < 128 := fun d hd => by
      have := toNat_of_isNameChar hd; omega
    simp only [isName, ascii c (hall c List.mem_cons_self), if_true, mayStartName_of_isNameStart h.1, Bool.true_and, List.all_eq_true]
    intro d hd
    have hd := hall d (List.mem_cons_of_mem _ hd)
    simp [ascii d hd, mayContinueName_of_isNameChar hd]

/-- The token of a word. -/
def wordLexeme (w : List Char) : Lexeme :=
  if isKeyword (String.ofList w) then .keyword (String.ofList w) else .name (String.ofList w)

/-- May a word end before `c`? -/
def endsWord (c : Char) : Bool := !Numeral.mayContinueName c && !isQuote c

theorem span_word {w : List Char} (h : ∀ c ∈ w, isNameChar c = true) {d : Char} (hd : Numeral.mayContinueName d = false)
    (rest : List Char) :
    (w ++ d :: rest).takeWhile Numeral.mayContinueName = w ∧
      (w ++ d :: rest).dropWhile Numeral.mayContinueName = d :: rest := by
  have hw : ∀ c ∈ w, Numeral.mayContinueName c = true := fun c hc => mayContinueName_of_isNameChar (h c hc)
  rw [List.takeWhile_append_of_pos hw, List.dropWhile_append_of_pos hw]
  simp [hd]

theorem token_word {w : List Char} (hw : isNameChars w = true) {d : Char} (hd : endsWord d = true)
    (rest : List Char) : token (w ++ d :: rest) = some (wordLexeme w, d :: rest) := by
  obtain ⟨hne, hall⟩ := mem_isNameChars hw
  simp only [endsWord, Bool.and_eq_true, Bool.not_eq_eq_eq_not, Bool.not_true] at hd
  obtain ⟨ht, hr⟩ := span_word hall hd.1 rest
  obtain ⟨c, w, rfl⟩ := List.exists_cons_of_ne_nil hne
  have hs : mayStartName c = true := mayStartName_of_isNameStart (by
    simp only [isNameChars, Bool.and_eq_true] at hw; exact hw.1)
  rw [List.cons_append] at ht hr ⊢
  simp only [token, hs, if_true, wordToken, ht, hr, hd.2, isName_of_isNameChars hw, wordLexeme,
    Bool.false_eq_true, if_false]

/-! ## Literals -/

theorem token_quoted {cs : List Char} (h : '\n' ∉ cs) {d : Char} (hd : d ≠ '"') (rest : List Char) :
    token ('"' :: (escape cs ++ '"' :: d :: rest)) =
      some (.literal ⟨false, false, false, escape cs⟩, d :: rest) := by
  have hb := literalBody_quoted h (d :: rest) (by simpa using hd)
  simp [token, show mayStartName '"' = false by decide, show isQuote '"' = true by decide, hb]

theorem token_formatted {cs : List Char} (h : '\n' ∉ cs) {d : Char} (hd : d ≠ '"') (rest : List Char) :
    token ('f' :: '"' :: (escape cs ++ '"' :: d :: rest)) =
      some (.literal ⟨false, false, true, escape cs⟩, d :: rest) := by
  have hb := literalBody_quoted h (d :: rest) (by simpa using hd)
  have hk : literalKind? ['f'] = some (false, false, true) := by decide
  obtain ⟨ht, hr⟩ := span_word (w := ['f']) (by simp; decide) (d := '"') (by decide) (escape cs ++ '"' :: d :: rest)
  rw [List.singleton_append] at ht hr
  simp [token, show mayStartName 'f' = true by decide, wordToken, ht, hr, show isQuote '"' = true by decide, hk, hb]

/-- A newline between quotes leaves the literal open. -/
theorem token_newline {cs : List Char} (hb : '\\' ∉ cs) (hq : '"' ∉ cs) (hn : '\n' ∈ cs) (rest : List Char) :
    token ('"' :: (cs ++ rest)) = none := by
  obtain ⟨pre, post, rfl⟩ := List.append_of_mem hn
  have hs := shortBody_newline (fun h => hb (List.mem_append_left _ h)) (fun h => hq (List.mem_append_left _ h)) []
    (post ++ rest)
  have hl : literalBody '"' ('"' :: (pre ++ '\n' :: post ++ rest)) = none := by
    rw [List.append_assoc, List.cons_append]
    cases pre with
    | nil =>
      rw [List.nil_append] at hs ⊢
      cases hr : post ++ rest with
      | nil => simp [literalBody, shortBody]
      | cons d ds => simp [literalBody, shortBody]
    | cons c pre =>
      have hc : c ≠ '"' := by rintro rfl; simp at hq
      rw [List.cons_append] at hs ⊢
      obtain ⟨d, ds, hd⟩ : ∃ d ds, pre ++ '\n' :: (post ++ rest) = d :: ds := List.exists_cons_of_ne_nil (by simp)
      rw [hd] at hs ⊢
      simp [literalBody, hc, hs]
  simp only [token, show mayStartName '"' = false by decide, show isQuote '"' = true by decide, Bool.false_eq_true,
    if_false, if_true, hl, Option.map_none]

/-- A text without quotes and backslashes goes up to the quotes that follow it. -/
theorem longBody_plain {cs : List Char} (hb : '\\' ∉ cs) (hq : '"' ∉ cs) (read rest : List Char) :
    longBody '"' read (cs ++ '"' :: '"' :: '"' :: rest) = some (cs.reverse ++ read, rest) := by
  induction cs generalizing read with
  | nil => simp [longBody]
  | cons c cs ih =>
    simp only [List.mem_cons, not_or] at hb hq
    obtain ⟨a, b, ds, hds⟩ : ∃ a b ds, cs ++ '"' :: '"' :: '"' :: rest = a :: b :: ds := by
      cases cs with
      | nil => exact ⟨_, _, _, rfl⟩
      | cons a cs => cases cs <;> exact ⟨_, _, _, rfl⟩
    have hih := ih hb.2 hq.2 (c :: read)
    rw [List.cons_append]
    rw [hds] at hih ⊢
    simp [longBody, Ne.symm hb.1, Ne.symm hq.1, hih]

theorem token_long {cs : List Char} (hb : '\\' ∉ cs) (hq : '"' ∉ cs) (rest : List Char) :
    token ('"' :: '"' :: '"' :: (cs ++ '"' :: '"' :: '"' :: rest)) =
      some (.literal ⟨false, false, false, cs⟩, rest) := by
  simp [token, show mayStartName '"' = false by decide, show isQuote '"' = true by decide, literalBody,
    longBody_plain hb hq]

end CrudQueries.Source.Lexer
