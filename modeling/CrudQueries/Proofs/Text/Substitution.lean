/-
  CrudQueries.Proofs.Text.Substitution — patterns, and other text in the place of what they match.

  A pattern is matched piece by piece (`match?`). A piece of many characters takes as many as there are and gives back
  one after the other while the pieces after it do not match. A substitution goes over the text from the left
  (`substitute`): where one of its patterns matches, other text is written for the match and it goes on after it, and
  elsewhere the character stays. What is matched is the head of the text, cut as the pieces say (`takes_of_match?`).
-/

import Mathlib.Data.List.Basic

namespace CrudQueries.Text.Pattern

/-- A piece of a pattern: one character of a class, as many as there are but at least one, or an end of the text. -/
inductive Piece where
  | one (accepts : Char → Bool)
  | many (accepts : Char → Bool)
  | start
  | finish

/-- The end of a text is also before the newline that ends it. -/
def isEnd (cs : List Char) : Bool := cs == [] || cs == ['\n']

/-- What each piece takes from the head of a text, if all of them match; `first` says that it is the whole text. -/
def match? (first : Bool) : List Piece → List Char → Option (List (List Char))
  | [], _ => some []
  | .start :: ps, cs => if first then match? first ps cs else none
  | .finish :: ps, cs => if isEnd cs then match? first ps cs else none
  | .one accepts :: ps, c :: cs => if accepts c then (match? false ps cs).map ([c] :: ·) else none
  | .many accepts :: ps, c :: cs =>
    if accepts c then
      -- Greed first: one character less is taken only if the pieces do not match with more.
      ((match? false (.many accepts :: ps) cs).map (List.modifyHead (c :: ·))).or ((match? false ps cs).map ([c] :: ·))
    else none
  | _ :: _, [] => none
termination_by ps cs => (cs.length, ps.length)

/-- The text with `written` in the place of what the first pattern that matches takes, wherever one does. -/
def substituteFrom (patterns : List (List Piece)) (written : List (List Char) → List Char) (first : Bool) :
    List Char → List Char
  | [] => []
  | c :: cs =>
    match patterns.findSome? fun ps => match? first ps (c :: cs) with
    | some taken =>
      written taken ++ substituteFrom patterns written false (cs.drop (taken.flatten.length - 1))
    | none => c :: substituteFrom patterns written false cs
termination_by cs => cs.length

def substitute (patterns : List (List Piece)) (written : List (List Char) → List Char) (cs : List Char) : List Char :=
  substituteFrom patterns written true cs

/-! ## What is taken -/

/-- A list of texts is what the pieces may take. -/
inductive Takes : List Piece → List (List Char) → Prop where
  | nil : Takes [] []
  | start {ps ts} (h : Takes ps ts) : Takes (.start :: ps) ts
  | finish {ps ts} (h : Takes ps ts) : Takes (.finish :: ps) ts
  | one {ps ts accepts c} (hc : accepts c = true) (h : Takes ps ts) : Takes (.one accepts :: ps) ([c] :: ts)
  | many {ps ts accepts t} (hne : t ≠ []) (ht : ∀ c ∈ t, accepts c = true) (h : Takes ps ts) :
      Takes (.many accepts :: ps) (t :: ts)

variable {ps : List Piece} {cs : List Char} {ts : List (List Char)} {accepts : Char → Bool} {first : Bool}

/-- A match takes the head of the text. -/
theorem takes_of_match? (h : match? first ps cs = some ts) : Takes ps ts ∧ ∃ rest, cs = ts.flatten ++ rest := by
  fun_induction match? first ps cs generalizing ts with
  | case1 first cs =>
    obtain rfl := Option.some.inj h
    exact ⟨.nil, cs, rfl⟩
  | case2 ps cs ih =>
    obtain ⟨htakes, hrest⟩ := ih h
    exact ⟨.start htakes, hrest⟩
  | case4 first ps cs hend ih =>
    obtain ⟨htakes, hrest⟩ := ih h
    exact ⟨.finish htakes, hrest⟩
  | case6 first accepts ps c cs hc ih =>
    obtain ⟨more, hmore, rfl⟩ := Option.map_eq_some_iff.mp h
    obtain ⟨htakes, rest, rfl⟩ := ih hmore
    exact ⟨.one hc htakes, rest, rfl⟩
  | case8 first accepts ps c cs hc ihmany ihone =>
    rcases Option.or_eq_some_iff.mp h with h | ⟨-, h⟩
    · obtain ⟨more, hmore, rfl⟩ := Option.map_eq_some_iff.mp h
      obtain ⟨htakes, rest, rfl⟩ := ihmany hmore
      cases htakes with
      | many hne ht htakes =>
        refine ⟨.many (by simp) (fun d hd => ?_) htakes, rest, rfl⟩
        rcases List.mem_cons.mp hd with rfl | hd
        · exact hc
        · exact ht d hd
    · obtain ⟨more, hmore, rfl⟩ := Option.map_eq_some_iff.mp h
      obtain ⟨htakes, rest, rfl⟩ := ihone hmore
      exact ⟨.many (by simp) (by simpa using hc) htakes, rest, rfl⟩
  | _ => cases h

/-- At the end of a pattern a piece of many characters takes all that there are. -/
theorem match?_many (first : Bool) (accepts : Char → Bool) (cs : List Char) :
    match? first [.many accepts] cs = if cs.takeWhile accepts = [] then none else some [cs.takeWhile accepts] := by
  induction cs generalizing first with
  | nil => simp [match?]
  | cons c cs ih =>
    rw [match?, ih]
    by_cases hc : accepts c = true
    · simp only [hc, if_true, List.takeWhile_cons_of_pos, match?, reduceCtorEq, if_false]
      by_cases hcs : cs.takeWhile accepts = []
      · simp [hcs]
      · simp [hcs]
    · simp [hc]

/-- Before the end of a text without newlines it takes all of the text or nothing. -/
theorem match?_many_finish (first : Bool) (accepts : Char → Bool) {cs : List Char} (hn : '\n' ∉ cs) :
    match? first [.many accepts, .finish] cs = if cs ≠ [] ∧ cs.all accepts then some [cs] else none := by
  induction cs generalizing first with
  | nil => simp [match?]
  | cons c cs ih =>
    simp only [List.mem_cons, not_or] at hn
    have hend : isEnd cs = true ↔ cs = [] := by
      simp only [isEnd, Bool.or_eq_true, beq_iff_eq, or_iff_left_iff_imp]
      rintro rfl
      exact absurd (List.mem_singleton_self _) hn.2
    rw [match?, ih _ hn.2]
    by_cases hc : accepts c = true
    · by_cases hcs : cs = []
      · subst hcs
        simp [hc, match?, isEnd]
      · by_cases hall : cs.all accepts = true
        · simp [hc, hcs, hall]
        · simp [hc, hcs, hall, match?, hend]
    · simp [hc]

/-! ## Step by step -/

variable {patterns : List (List Piece)} {written : List (List Char) → List Char} {c : Char}

/-- Where no pattern matches, the character stays. -/
theorem substituteFrom_skip (h : ∀ ps ∈ patterns, match? first ps (c :: cs) = none) :
    substituteFrom patterns written first (c :: cs) = c :: substituteFrom patterns written false cs := by
  rw [substituteFrom, List.findSome?_eq_none_iff.mpr h]

/-- Where one matches, it goes on after what is taken. -/
theorem substituteFrom_take (ts : List (List Char)) (rest : List Char)
    (h : (patterns.findSome? fun ps => match? first ps cs) = some ts) (hne : ts.flatten ≠ [])
    (hcs : cs = ts.flatten ++ rest) :
    substituteFrom patterns written first cs = written ts ++ substituteFrom patterns written false rest := by
  obtain ⟨c, head, hhead⟩ := List.exists_cons_of_ne_nil hne
  subst hcs
  rw [hhead, List.cons_append] at h ⊢
  rw [substituteFrom, h]
  simp only [hhead, List.length_cons, Nat.add_sub_cancel, List.drop_left]

end CrudQueries.Text.Pattern
