/-
  CrudQueries.Proofs.Text.SnakeCase — the conversion to snake case as substitutions.

  The conversion is five substitutions, one after the other, and then lower case (`substituted`). Each of them is one
  of the passes (`substituteFrom_acronym` to `substitute_ends`): a match of capitals and a small letter gives back one
  capital, a run of separators is taken as a whole, and no two matches overlap. With what the passes come to, this is
  what a form is (`snakeCase_reference`): words of small letters and digits with one underscore between them, the
  letters and digits of the name in their order, and its own form.
-/

import CrudQueries.Proofs.Text.OnePass
import CrudQueries.Proofs.Text.Substitution

namespace CrudQueries.Text

open Pattern (Piece match? substitute substituteFrom)

variable {a b c : Char} {cs rest run : List Char}

/-! ## Patterns -/

/-- What the first piece takes, a separator, and what the others take. -/
def firstApart : List (List Char) → List Char
  | first :: others => first ++ '_' :: others.flatten
  | [] => []

/-- Capitals, and after them a capital and a small letter. -/
def acronym : List Piece := [.many isUpperLetter, .one isUpperLetter, .one isLowerLetter]

/-- A small letter or digit, and a capital after it. -/
def wordEnd : List Piece := [.one fun c => isLowerLetter c || isDigit c, .one isUpperLetter]

def other : List Piece := [.one fun c => !isAlphanumeric c]

/-- Two separators at least. -/
def longRun : List Piece := [.one (· == '_'), .many (· == '_')]

/-- Separators at the start and at the end. -/
def ends : List (List Piece) := [[.start, .many (· == '_')], [.many (· == '_'), .finish]]

/-- The conversion as it is written down: five substitutions, and the result in lower case. -/
def substituted (cs : List Char) : List Char :=
  let cs := substitute [acronym] firstApart cs
  let cs := substitute [wordEnd] firstApart cs
  let cs := substitute [other] (fun _ => ['_']) cs
  let cs := substitute [longRun] (fun _ => ['_']) cs
  substitute ends (fun _ => []) cs

/-! ## Capitals -/

theorem partAcronyms_run (hne : run ≠ []) (hrun : ∀ d ∈ run, isUpperLetter d = true) (hb : isUpperLetter b = true)
    (hc : isLowerLetter c = true) :
    partAcronyms (run ++ b :: c :: rest) = run ++ '_' :: b :: c :: partAcronyms rest := by
  induction run with
  | nil => exact absurd rfl hne
  | cons a run ih =>
    have ha := hrun a List.mem_cons_self
    cases run with
    | nil => simp [partAcronyms, ha, hb, hc]
    | cons d run =>
      have hd := hrun d (by simp)
      -- The third character is a capital still, so no word begins at the second.
      obtain ⟨e, more, hmore, he⟩ : ∃ e more, run ++ b :: c :: rest = e :: more ∧ isUpperLetter e = true := by
        cases run with
        | nil => exact ⟨b, c :: rest, rfl, hb⟩
        | cons e run => exact ⟨e, run ++ b :: c :: rest, rfl, hrun e (by simp)⟩
      have ih := ih (by simp) fun x hx => hrun x (List.mem_cons_of_mem _ hx)
      simp only [List.cons_append, hmore] at ih ⊢
      rw [partAcronyms, if_neg (by simp [isLowerLetter_of_isUpperLetter he]), ih]

theorem partAcronyms_cons_of_not (h : ∀ b d rest, cs = b :: d :: rest → isUpperLetter c = true → isUpperLetter b = true →
    isLowerLetter d = false) : partAcronyms (c :: cs) = c :: partAcronyms cs := by
  rcases cs with _ | ⟨b, _ | ⟨d, rest⟩⟩
  · rfl
  · rfl
  · rw [partAcronyms, if_neg]
    simp only [Bool.and_eq_true]
    rintro ⟨⟨hc, hb⟩, hd⟩
    rw [h b d rest rfl hc hb] at hd
    cases hd

theorem substituteFrom_acronym (first : Bool) (cs : List Char) :
    substituteFrom [acronym] firstApart first cs = partAcronyms cs := by
  induction hn : cs.length using Nat.strongRecOn generalizing first cs with
  | ind n ih =>
  subst hn
  cases cs with
  | nil => rw [substituteFrom]; rfl
  | cons c cs =>
  cases hm : match? first acronym (c :: cs) with
  | none =>
    rw [Pattern.substituteFrom_skip (by simpa using hm), ih _ (by simp) _ _ rfl, partAcronyms_cons_of_not]
    -- Three such characters would match with a run of one.
    rintro b d rest rfl hc hb
    by_contra hd
    rw [Bool.not_eq_false] at hd
    simp [acronym, match?, hc, hb, hd] at hm
  | some ts =>
    obtain ⟨htakes, rest, hrest⟩ := Pattern.takes_of_match? hm
    -- What matches is a run of capitals, a capital and a small letter.
    obtain _ | _ | _ | _ | ⟨hne, hrun, _ | _ | _ | ⟨hb, _ | _ | _ | ⟨hl, ⟨⟩⟩⟩⟩ := htakes
    rename_i run b l
    have htaken : ([run, [b], [l]] : List (List Char)).flatten = run ++ [b, l] := by simp
    rw [Pattern.substituteFrom_take _ _ (by simpa using hm) (by simp) hrest, hrest]
    have hlength := congrArg List.length hrest
    rw [htaken] at hlength ⊢
    rw [List.append_assoc, List.cons_append, List.singleton_append, partAcronyms_run hne hrun hb hl,
      ih _ (by simp only [List.length_append, List.length_cons] at hlength ⊢; omega) _ _ rfl]
    simp [firstApart]

theorem substituteFrom_wordEnd (first : Bool) (cs : List Char) :
    substituteFrom [wordEnd] firstApart first cs = partWords cs := by
  fun_induction partWords cs generalizing first with
  | case1 a b rest h ih =>
    obtain ⟨ha, hb⟩ : (isLowerLetter a = true ∨ isDigit a = true) ∧ isUpperLetter b = true := by simpa using h
    have hm : match? first wordEnd (a :: b :: rest) = some [[a], [b]] := by simp [wordEnd, match?, ha, hb]
    rw [Pattern.substituteFrom_take _ rest (by simpa using hm) (by simp) (by simp), ih]
    rfl
  | case2 a b rest h ih =>
    have hm : match? first wordEnd (a :: b :: rest) = none := by
      simp only [wordEnd, match?]
      split
      · rename_i ha
        rw [if_neg fun hb => h (by rw [ha, hb]; rfl)]
        rfl
      · rfl
    rw [Pattern.substituteFrom_skip (by simpa using hm), ih]
  | case3 cs h =>
    rcases cs with _ | ⟨a, _ | ⟨b, rest⟩⟩
    · rw [substituteFrom]
    · have hm : match? first wordEnd [a] = none := by
        simp only [wordEnd, match?]
        split <;> rfl
      rw [Pattern.substituteFrom_skip (by simpa using hm), substituteFrom]
    · exact absurd rfl (h a b rest)

/-! ## Separators -/

theorem substituteFrom_other (first : Bool) (cs : List Char) :
    substituteFrom [other] (fun _ => ['_']) first cs = separate cs := by
  induction cs generalizing first with
  | nil => rw [substituteFrom]; rfl
  | cons c cs ih =>
    cases hc : isAlphanumeric c with
    | true =>
      have hm : match? first other (c :: cs) = none := by simp [other, match?, hc]
      rw [Pattern.substituteFrom_skip (by simpa using hm), ih]
      simp [separate, hc]
    | false =>
      have hm : match? first other (c :: cs) = some [[c]] := by simp [other, match?, hc]
      rw [Pattern.substituteFrom_take _ cs (by simpa using hm) (by simp) (by simp), ih]
      simp [separate, hc]

theorem substituteFrom_longRun (first : Bool) (cs : List Char) :
    substituteFrom [longRun] (fun _ => ['_']) first cs = mergeSeparators cs := by
  induction hn : cs.length using Nat.strongRecOn generalizing first cs with
  | ind n ih =>
  subst hn
  cases cs with
  | nil => rw [substituteFrom]; rfl
  | cons c cs =>
  by_cases hc : c = '_'
  · subst hc
    have hsplit := List.takeWhile_append_dropWhile (p := (· == '_')) (l := cs)
    -- A separator alone is no long run, and comes to itself.
    by_cases hone : cs.takeWhile (· == '_') = []
    · have hm : match? first longRun ('_' :: cs) = none := by simp [longRun, match?, Pattern.match?_many, hone]
      rw [hone, List.nil_append] at hsplit
      rw [Pattern.substituteFrom_skip (by simpa using hm), ih _ (by simp) _ _ rfl, mergeSeparators_separator, hsplit]
    · have hm : match? first longRun ('_' :: cs) = some [['_'], cs.takeWhile (· == '_')] := by
        simp [longRun, match?, Pattern.match?_many, hone]
      have hlength := congrArg List.length hsplit
      rw [Pattern.substituteFrom_take _ (cs.dropWhile (· == '_')) (by simpa using hm) (by simp) (by simp [hsplit]),
        ih _ (by rw [List.length_append] at hlength; rw [List.length_cons]; omega) _ _ rfl, mergeSeparators_separator]
      rfl
  · have hm : match? first longRun (c :: cs) = none := by simp [longRun, match?, hc]
    rw [Pattern.substituteFrom_skip (by simpa using hm), ih _ (by simp) _ _ rfl, mergeSeparators_cons hc]

/-- After the start the separators at the end alone are taken. -/
theorem substituteFrom_ends (hn : '\n' ∉ cs) : substituteFrom ends (fun _ => []) false cs = cs.rdropWhile (· == '_') := by
  induction cs with
  | nil => rw [substituteFrom]; rfl
  | cons c cs ih =>
    have hstart : match? false [.start, .many (· == '_')] (c :: cs) = none := by simp [match?]
    have hfinish := Pattern.match?_many_finish false (· == '_') hn
    by_cases hall : ∀ d ∈ c :: cs, (d == '_') = true
    · rw [if_pos ⟨by simp, List.all_eq_true.mpr hall⟩] at hfinish
      rw [Pattern.substituteFrom_take [c :: cs] [] (by simp [ends, hstart, hfinish]) (by simp) (by simp),
        List.rdropWhile_eq_nil_iff.mpr hall, substituteFrom]
      rfl
    · rw [if_neg fun h => hall (List.all_eq_true.mp h.2)] at hfinish
      have hkept : ¬ (cs.rdropWhile (· == '_') = [] ∧ (c == '_') = true) := by
        rintro ⟨hnone, hc⟩
        refine hall fun d hd => ?_
        rcases List.mem_cons.mp hd with rfl | hd
        · exact hc
        · exact List.rdropWhile_eq_nil_iff.mp hnone d hd
      rw [Pattern.substituteFrom_skip (by simp [ends, hstart, hfinish]), ih fun h => hn (List.mem_cons_of_mem _ h),
        rdropWhile_cons, if_neg hkept]

theorem substitute_ends (hn : '\n' ∉ cs) : substitute ends (fun _ => []) cs = stripSeparators cs := by
  have hstrip : stripSeparators cs = (cs.dropWhile (· == '_')).rdropWhile (· == '_') := rfl
  rw [hstrip, substitute]
  cases cs with
  | nil => rw [substituteFrom]; rfl
  | cons c cs =>
    by_cases hc : c = '_'
    · have hm : match? true [.start, .many (· == '_')] (c :: cs) = some [(c :: cs).takeWhile (· == '_')] := by
        rw [match?, if_pos rfl, Pattern.match?_many, if_neg (by simp [hc])]
      have hsplit := List.takeWhile_append_dropWhile (p := (· == '_')) (l := c :: cs)
      rw [Pattern.substituteFrom_take [(c :: cs).takeWhile (· == '_')] ((c :: cs).dropWhile (· == '_'))
        (by simp [ends, hm]) (by simp [hc]) (by rw [List.flatten_singleton, hsplit]),
        substituteFrom_ends fun h => hn ((List.dropWhile_sublist _).mem h)]
      rfl
    · have hstart : match? true [.start, .many (· == '_')] (c :: cs) = none := by simp [match?, hc]
      have hfinish : match? true [.many (· == '_'), .finish] (c :: cs) = none := by simp [match?, hc]
      rw [Pattern.substituteFrom_skip (by simp [ends, hstart, hfinish]),
        substituteFrom_ends fun h => hn (List.mem_cons_of_mem _ h), List.dropWhile_cons_of_neg (by simpa using hc),
        rdropWhile_cons, if_neg (by simp [hc])]

/-! ## The conversion -/

theorem substituted_eq (cs : List Char) :
    substituted cs = stripSeparators (mergeSeparators (separate (partWords (partAcronyms cs)))) := by
  have hn : '\n' ∉ mergeSeparators (separate (partWords (partAcronyms cs))) := fun h =>
    absurd (mem_separate (mem_mergeSeparators h)) (by decide)
  have hacronym : substitute [acronym] firstApart cs = partAcronyms cs := substituteFrom_acronym true cs
  have hword : ∀ ds, substitute [wordEnd] firstApart ds = partWords ds := substituteFrom_wordEnd true
  have hother : ∀ ds, substitute [other] (fun _ => ['_']) ds = separate ds := substituteFrom_other true
  have hrun : ∀ ds, substitute [longRun] (fun _ => ['_']) ds = mergeSeparators ds := substituteFrom_longRun true
  simp only [substituted]
  rw [hacronym, hword, hother, hrun, substitute_ends hn]

/-- The conversion of a name comes to its words, as each character and the two beside it tell them, in small letters and
  with one underscore between them. The letters and digits are those of the name, and the form is its own form. -/
theorem snakeCase_reference (s : String) :
    snakeCase s = lower (String.ofList (substituted s.toList)) ∧
      snakeCase s = String.ofList (joinWords (onePass none s.toList)) ∧
      (∃ words : List (List Char),
        (∀ word ∈ words, word ≠ [] ∧ ∀ c ∈ word, isLowerLetter c = true ∨ isDigit c = true) ∧
          (snakeCase s).toList = ['_'].intercalate words) ∧
      (snakeCase s).toList.filter isAlphanumeric = (s.toList.filter isAlphanumeric).map lowerLetter ∧
      snakeCase (snakeCase s) = snakeCase s := by
  have hform : (snakeCase s).toList = joinWords (onePass none s.toList) := by
    rw [snakeCase, String.toList_ofList, snakeChars_eq]
  refine ⟨?_, ?_, ⟨_, fun word hword => ?_, hform⟩, ?_, ?_⟩
  · have hlower : ∀ c ∈ substituted s.toList, lowerMap.char c = [lowerLetter c] := fun c hc => by
      rw [substituted_eq] at hc
      exact lowerMap_char (Or.inl (mem_separate (mem_mergeSeparators (mem_stripSeparators hc))))
    rw [lower, CaseMap.apply, String.toList_ofList, List.flatMap_congr hlower, ← List.map_eq_flatMap, substituted_eq]
    rfl
  · rw [← hform, String.ofList_toList]
  · obtain ⟨hpart, hne⟩ := List.mem_filter.mp hword
    obtain ⟨hsep, hmem⟩ := mem_splitOnChar hpart
    refine ⟨by simpa using hne, fun c hc => ?_⟩
    rcases mem_onePass (hmem c hc) with h | h | rfl
    · exact Or.inl h
    · exact Or.inr h
    · exact absurd hc hsep
  · rw [hform, filter_joinWords rfl, filter_onePass]
  · have hself : onePass none (joinWords (onePass none s.toList)) = joinWords (onePass none s.toList) :=
      onePass_eq_self (fun c hc => mem_onePass (mem_joinWords hc)) none
    rw [← String.toList_inj, hform, snakeCase, String.toList_ofList, snakeChars_eq, hform, hself, joinWords_joinWords]

/-- Digits end a word as small letters do, and what is no letter of ASCII parts words. -/
example : snakeCase "HTTP2Log_éItemsV3\n" = "http2_log_items_v3" := by decide +kernel

end CrudQueries.Text
