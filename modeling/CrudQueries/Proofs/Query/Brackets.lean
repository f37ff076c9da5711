/-
  CrudQueries.Proofs.Query.Brackets — lists inside of SQL text, read back.

  A list's segments are what lies between the commas that no bracket encloses (`segments`). The two bracketed
  lists with which a statement ends are found from its end (`lastGroups?`), so it does not matter what the table
  before them looks like. Both readers count the brackets that are open, and a text whose brackets match
  (`Matched`) leaves the count where it was. Hence texts without commas of their own (`Unparted`) come back from
  the list of them (`segments_intercalate`), and matched texts come back from the brackets around them
  (`lastGroups?_eq`).
-/

import Mathlib.Data.List.Basic

namespace CrudQueries.Query

/-- Texts whose brackets match. -/
inductive Matched : List Char → Prop where
  | nil : Matched []
  | plain {c cs} (ho : c ≠ '(') (hc : c ≠ ')') (h : Matched cs) : Matched (c :: cs)
  | group {cs ds} (hin : Matched cs) (h : Matched ds) : Matched ('(' :: (cs ++ ')' :: ds))

/-- Texts whose brackets match and that have commas in brackets only. -/
inductive Unparted : List Char → Prop where
  | nil : Unparted []
  | plain {c cs} (ho : c ≠ '(') (hc : c ≠ ')') (hcomma : c ≠ ',') (h : Unparted cs) : Unparted (c :: cs)
  | group {cs ds} (hin : Matched cs) (h : Unparted ds) : Unparted ('(' :: (cs ++ ')' :: ds))

variable {cs ds : List Char}

theorem Unparted.matched (h : Unparted cs) : Matched cs := by
  induction h with
  | nil => exact .nil
  | plain ho hc _ _ ih => exact .plain ho hc ih
  | group hin _ ih => exact .group hin ih

theorem Unparted.append (h : Unparted cs) (h' : Unparted ds) : Unparted (cs ++ ds) := by
  induction h with
  | nil => exact h'
  | plain ho hc hcomma _ ih => exact .plain ho hc hcomma ih
  | group hin _ ih =>
    rw [List.cons_append, List.append_assoc, List.cons_append]
    exact .group hin ih

theorem Unparted.of_plain (ho : '(' ∉ cs) (hc : ')' ∉ cs) (hcomma : ',' ∉ cs) : Unparted cs := by
  induction cs with
  | nil => exact .nil
  | cons c cs ih =>
    simp only [List.mem_cons, not_or] at ho hc hcomma
    exact .plain (Ne.symm ho.1) (Ne.symm hc.1) (Ne.symm hcomma.1) (ih ho.2 hc.2 hcomma.2)

/-- A text with a bracketed one after it. -/
theorem Unparted.bracketed {before inside : String} (h : Unparted before.toList) (hin : Matched inside.toList) :
    Unparted (before ++ "(" ++ inside ++ ")").toList := by
  have htext : (before ++ "(" ++ inside ++ ")").toList = before.toList ++ '(' :: (inside.toList ++ ')' :: []) := by
    simp [String.toList_append]
  rw [htext]
  exact h.append (.group hin .nil)

theorem Matched.append (h : Matched cs) (h' : Matched ds) : Matched (cs ++ ds) := by
  induction h with
  | nil => exact h'
  | plain ho hc _ ih => exact .plain ho hc ih
  | group hin _ _ ih =>
    rw [List.cons_append, List.append_assoc, List.cons_append]
    exact .group hin ih

theorem Matched.comma (h : Matched cs) : Matched (',' :: cs) := .plain (by decide) (by decide) h

theorem matched_intercalate {parts : List String} (h : ∀ p ∈ parts, Matched p.toList) :
    Matched (",".intercalate parts).toList := by
  induction parts with
  | nil => exact .nil
  | cons p parts ih =>
    have hp := h p List.mem_cons_self
    have hrest := ih fun q hq => h q (List.mem_cons_of_mem _ hq)
    by_cases hparts : parts = []
    · subst hparts
      rwa [String.intercalate_singleton]
    · rw [String.intercalate_cons_of_ne_nil hparts, String.toList_append, String.toList_append, List.append_assoc]
      exact hp.append hrest.comma

/-! ## The segments of a list -/

/-- The number of open brackets after a character. -/
def bracketsAfter (depth : Nat) (c : Char) : Nat :=
  if c = '(' then depth + 1 else if c = ')' then depth - 1 else depth

/-- The parts with `cs` at the head of the first. -/
def extendFirst (cs : List Char) : List (List Char) → List (List Char)
  | part :: parts => (cs ++ part) :: parts
  | [] => [cs]

/-- The segments of a list's text, of which `depth` brackets are open at the start. -/
def segmentsFrom (depth : Nat) : List Char → List (List Char)
  | [] => [[]]
  | c :: rest =>
    if c = ',' ∧ depth = 0 then [] :: segmentsFrom 0 rest
    else extendFirst [c] (segmentsFrom (bracketsAfter depth c) rest)

/-- The segments of a list: what lies between the commas that stand in no brackets. -/
def segments (s : String) : List String := (segmentsFrom 0 s.toList).map String.ofList

theorem extendFirst_ne_nil (cs : List Char) (parts : List (List Char)) : extendFirst cs parts ≠ [] := by
  cases parts <;> simp [extendFirst]

theorem extendFirst_append (cs ds : List Char) (parts : List (List Char)) :
    extendFirst (cs ++ ds) parts = extendFirst cs (extendFirst ds parts) := by
  cases parts <;> simp [extendFirst]

theorem segmentsFrom_ne_nil (depth : Nat) (cs : List Char) : segmentsFrom depth cs ≠ [] := by
  cases cs with
  | nil => simp [segmentsFrom]
  | cons c cs =>
    rw [segmentsFrom]
    split
    · simp
    · exact extendFirst_ne_nil _ _

/-- Read with `depth` brackets open, a text belongs to one segment and leaves as many open. -/
def Stays (depth : Nat) (cs : List Char) : Prop :=
  ∀ rest, segmentsFrom depth (cs ++ rest) = extendFirst cs (segmentsFrom depth rest)

namespace Stays

variable {depth : Nat}

theorem nil : Stays depth [] := by
  intro rest
  obtain ⟨part, parts, h⟩ := List.exists_cons_of_ne_nil (segmentsFrom_ne_nil depth rest)
  simp [h, extendFirst]

/-- A character that neither opens nor closes nor parts. -/
theorem cons {c : Char} (ho : c ≠ '(') (hc : c ≠ ')') (hcomma : c ≠ ',' ∨ depth ≠ 0) (h : Stays depth cs) :
    Stays depth (c :: cs) := by
  intro rest
  have hsplit : ¬ (c = ',' ∧ depth = 0) := by
    rintro ⟨h1, h2⟩
    exact hcomma.elim (fun h => h h1) (fun h => h h2)
  have hdepth : bracketsAfter depth c = depth := by rw [bracketsAfter, if_neg ho, if_neg hc]
  rw [List.cons_append, segmentsFrom, if_neg hsplit, hdepth, h, ← extendFirst_append, List.singleton_append]

/-- What stands in brackets, and what follows them. -/
theorem group (hin : Stays (depth + 1) cs) (h : Stays depth ds) : Stays depth ('(' :: (cs ++ ')' :: ds)) := by
  intro rest
  have hopen : bracketsAfter depth '(' = depth + 1 := rfl
  have hclose : bracketsAfter (depth + 1) ')' = depth := rfl
  have hafter : segmentsFrom (depth + 1) (')' :: (ds ++ rest)) = extendFirst (')' :: ds) (segmentsFrom depth rest) := by
    rw [segmentsFrom, if_neg (by simp), hclose, h, ← extendFirst_append, List.singleton_append]
  rw [List.cons_append, List.append_assoc, List.cons_append, segmentsFrom, if_neg (by simp), hopen, hin, hafter,
    ← extendFirst_append, ← extendFirst_append, List.singleton_append, List.cons_append]

end Stays

/-- In brackets, commas part nothing. -/
theorem Matched.stays (h : Matched cs) (depth : Nat) : Stays (depth + 1) cs := by
  induction h generalizing depth with
  | nil => exact .nil
  | plain ho hc _ ih => exact .cons ho hc (.inr (by omega)) (ih depth)
  | group _ _ ihin ih => exact .group (ihin (depth + 1)) (ih depth)

theorem Unparted.stays (h : Unparted cs) : Stays 0 cs := by
  induction h with
  | nil => exact .nil
  | plain ho hc hcomma _ ih => exact .cons ho hc (.inl hcomma) ih
  | group hin _ ih => exact .group (hin.stays 0) ih

/-- The comma after a segment ends it. -/
theorem segmentsFrom_comma (h : Unparted cs) (rest : List Char) :
    segmentsFrom 0 (cs ++ ',' :: rest) = cs :: segmentsFrom 0 rest := by
  rw [h.stays, segmentsFrom, if_pos (by simp), extendFirst, List.append_nil]

theorem segmentsFrom_last (h : Unparted cs) : segmentsFrom 0 cs = [cs] := by
  have hlast := h.stays []
  rwa [List.append_nil, segmentsFrom, extendFirst, List.append_nil] at hlast

theorem segmentsFrom_intercalate {parts : List (List Char)} (hne : parts ≠ []) (h : ∀ p ∈ parts, Unparted p) :
    segmentsFrom 0 ([','].intercalate parts) = parts := by
  induction parts with
  | nil => exact absurd rfl hne
  | cons p parts ih =>
    have hp := h p List.mem_cons_self
    by_cases hparts : parts = []
    · subst hparts
      rw [List.intercalate_singleton, segmentsFrom_last hp]
    · have hrest := ih hparts fun q hq => h q (List.mem_cons_of_mem _ hq)
      rw [List.intercalate_cons_of_ne_nil hparts, List.append_assoc, List.singleton_append, segmentsFrom_comma hp, hrest]

/-- The segments of a list are the texts that it was joined from. -/
theorem segments_intercalate {parts : List String} (hne : parts ≠ []) (h : ∀ p ∈ parts, Unparted p.toList) :
    segments (",".intercalate parts) = parts := by
  have hparts : ∀ p ∈ parts.map String.toList, Unparted p := by
    intro p hp
    obtain ⟨q, hq, rfl⟩ := List.mem_map.mp hp
    exact h q hq
  have hlist := segmentsFrom_intercalate (by simpa using hne) hparts
  rw [segments, String.toList_intercalate, show ",".toList = [','] from rfl, hlist, List.map_map]
  simp [Function.comp_def, String.ofList_toList]

/-- Two lists with a comma between them are one list. -/
theorem intercalate_append {xs ys : List String} (hx : xs ≠ []) (hy : ys ≠ []) :
    ",".intercalate (xs ++ ys) = ",".intercalate xs ++ "," ++ ",".intercalate ys := by
  induction xs with
  | nil => exact absurd rfl hx
  | cons x xs ih =>
    by_cases hxs : xs = []
    · subst hxs
      rw [List.singleton_append, String.intercalate_cons_of_ne_nil hy, String.intercalate_singleton]
    · rw [List.cons_append, String.intercalate_cons_of_ne_nil (by simp [hxs]), ih hxs,
        String.intercalate_cons_of_ne_nil hxs]
      simp only [String.append_assoc]

/-! ## The last two groups -/

/-- Reads backwards to the bracket that opens a group: what is in the group, and the text before the bracket,
  last character first. `read` is what has been read of the group, in which `depth` more brackets are to be opened. -/
def backToOpening (depth : Nat) (read : List Char) : List Char → Option (List Char × List Char)
  | [] => none
  | c :: before =>
    if c = ')' then backToOpening (depth + 1) (c :: read) before
    else if c = '(' then
      match depth with
      | 0 => some (read, before)
      | depth + 1 => backToOpening depth (c :: read) before
    else backToOpening depth (c :: read) before

/-- The last group of a text that is given last character first: what is in it, what stands after it, and the text
  before it, last character first. -/
def lastGroup? (back : List Char) : Option (List Char × List Char × List Char) :=
  match back.dropWhile (· != ')') with
  | _ :: rest => (backToOpening 0 [] rest).map fun (inside, before) =>
      (inside, (back.takeWhile (· != ')')).reverse, before)
  | [] => none

/-- Two groups of a text, with what stands between and after them. -/
structure Groups where
  first : String
  between : String
  second : String
  after : String
  deriving DecidableEq, Repr

/-- The last two groups of a text. -/
def lastGroups? (s : String) : Option Groups := do
  let (second, after, before) ← lastGroup? s.toList.reverse
  let (first, between, _) ← lastGroup? before
  some ⟨String.ofList first, String.ofList between, String.ofList second, String.ofList after⟩

theorem backToOpening_closing (depth : Nat) (read before : List Char) :
    backToOpening depth read (')' :: before) = backToOpening (depth + 1) (')' :: read) before := by
  cases depth <;> rfl

theorem backToOpening_opening (depth : Nat) (read before : List Char) :
    backToOpening (depth + 1) read ('(' :: before) = backToOpening depth ('(' :: read) before := rfl

theorem backToOpening_plain {c : Char} (ho : c ≠ '(') (hc : c ≠ ')') (depth : Nat) (read before : List Char) :
    backToOpening depth read (c :: before) = backToOpening depth (c :: read) before := by
  cases depth <;> simp [backToOpening, ho, hc]

/-- A text whose brackets match is passed over. -/
theorem backToOpening_matched (h : Matched cs) (depth : Nat) (read before : List Char) :
    backToOpening depth read (cs.reverse ++ before) = backToOpening depth (cs ++ read) before := by
  induction h generalizing depth read before with
  | nil => rfl
  | plain ho hc _ ih =>
    rw [List.reverse_cons, List.append_assoc, ih, List.singleton_append, backToOpening_plain ho hc, List.cons_append]
  | @group cs ds _ _ ihin ih =>
    -- backwards the group begins with its closing bracket
    have hback : ('(' :: (cs ++ ')' :: ds)).reverse ++ before = ds.reverse ++ ')' :: (cs.reverse ++ '(' :: before) := by
      simp
    rw [hback, ih, backToOpening_closing, ihin, backToOpening_opening]
    simp

/-- A matched text in brackets is read back as a group. -/
theorem lastGroup?_eq {after : List Char} (h : Matched cs) (ha : ')' ∉ after) (before : List Char) :
    lastGroup? (after.reverse ++ ')' :: (cs.reverse ++ '(' :: before)) = some (cs, after, before) := by
  have hplain : ∀ c ∈ after.reverse, (c != ')') = true := by
    intro c hc
    rw [bne_iff_ne]
    rintro rfl
    exact ha (List.mem_reverse.mp hc)
  have hgroup : backToOpening 0 [] (cs.reverse ++ '(' :: before) = some (cs, before) := by
    rw [backToOpening_matched h, List.append_nil]
    rfl
  rw [lastGroup?, List.dropWhile_append_of_pos hplain, List.takeWhile_append_of_pos hplain]
  simp [hgroup]

theorem lastGroups?_eq {first between second after : String} (hf : Matched first.toList) (hs : Matched second.toList)
    (hb : ')' ∉ between.toList) (ha : ')' ∉ after.toList) (head : String) :
    lastGroups? (head ++ "(" ++ first ++ ")" ++ between ++ "(" ++ second ++ ")" ++ after) =
      some ⟨first, between, second, after⟩ := by
  have hback : (head ++ "(" ++ first ++ ")" ++ between ++ "(" ++ second ++ ")" ++ after).toList.reverse =
      after.toList.reverse ++ ')' :: (second.toList.reverse ++ '(' ::
        (between.toList.reverse ++ ')' :: (first.toList.reverse ++ '(' :: head.toList.reverse))) := by
    simp [String.toList_append]
  rw [lastGroups?, hback, lastGroup?_eq hs ha]
  simp [lastGroup?_eq hf hb, String.ofList_toList]

end CrudQueries.Query
