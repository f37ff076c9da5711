/-
  CrudQueries.Proofs.Source.Layout — the blocks that margins make.

  The tokens of lines are those of each line, with the beginnings and the ends of blocks where the
  margin changes (`layout`). A text of good lines whose margins fit has these tokens
  (`tokens?_layout`). A line that is a statement by itself (`SaysLine`) is one wherever it stands,
  a line that opens a block (`SaysHead`) is one with any block after it, and a source all of whose
  lines are statements (`SaysLines`) is read (`read?_lines`).
-/

import CrudQueries.Proofs.Source.Blocks
import CrudQueries.Proofs.Source.Written
import CrudQueries.Source.Outline

namespace CrudQueries.Source

open Lexer (State)

/-! ## Margins -/

/-- The margins of the open blocks, innermost first, when a line stands at `m`. -/
def marginsAt (ms : List Nat) (m : Nat) : List Nat := if ms.headD 0 < m then m :: ms else ms.dropWhile (m < ·)

/-- The tokens before a line at `m` in line `n`. -/
def marginTokens (ms : List Nat) (m n : Nat) : Tokens :=
  if ms.headD 0 < m then [⟨.indent, n⟩] else (ms.takeWhile (m < ·)).map fun _ => ⟨.dedent, n⟩

/-- May a line stand at `m`? -/
def fitsAt (ms : List Nat) (m : Nat) : Bool :=
  if ms.headD 0 < m then ms.length < Lexer.blockLimit else (ms.dropWhile (m < ·)).headD 0 == m

/-- Do the margins of lines fit each other? -/
def fits : List Nat → List Line → Bool
  | _, [] => true
  | ms, .silent _ :: ls => fits ms ls
  | ms, .written m _ :: ls => fitsAt ms m && fits (marginsAt ms m) ls

/-- The tokens of a line in line `n`, and `rest` after its end. -/
def lineTokens (n : Nat) (is : List Item) (rest : Tokens) : Tokens :=
  tokensAt n (lexemes is) ++ ⟨.lineEnd, lineAfter n (lexemes is)⟩ :: rest

/-- The tokens of lines from line `n` on to the end of the text. -/
def layout (ms : List Nat) (n : Nat) : List Line → Tokens
  | [] => ms.map (fun _ => ⟨.dedent, n⟩) ++ [⟨.finish, n⟩]
  | .silent _ :: ls => layout ms (n + 1) ls
  | .written m is :: ls =>
    marginTokens ms m n ++ lineTokens n is (layout (marginsAt ms m) (lineAfter n (lexemes is) + 1) ls)

variable {ms : List Nat} {m n : Nat} {is : List Item} {ls : List Line}

/-- Margins of blanks alone. -/
def blankMargins (ms : List Nat) : List (Nat × Nat) := ms.map fun m => (m, m)

theorem dedents_blank (h : (ms.dropWhile (m < ·)).headD 0 = m) (hp : ∀ k ∈ ms, 0 < k) :
    Lexer.dedents m m (blankMargins ms) =
      some (blankMargins (ms.dropWhile (m < ·)), (ms.takeWhile (m < ·)).length) := by
  induction ms with
  | nil =>
    obtain rfl : 0 = m := h
    rfl
  | cons k ms ih =>
    by_cases hk : m < k
    · rw [List.dropWhile_cons_of_pos (by simpa using hk)] at h ⊢
      rw [List.takeWhile_cons_of_pos (by simpa using hk)]
      have ih := ih h fun j hj => hp j (List.mem_cons_of_mem _ hj)
      simp only [blankMargins, List.map_cons] at ih ⊢
      simp [Lexer.dedents, hk, ih]
    · rw [List.dropWhile_cons_of_neg (by simpa using hk)] at h ⊢
      rw [List.takeWhile_cons_of_neg (by simpa using hk)]
      obtain rfl : k = m := h
      simp [Lexer.dedents, blankMargins]

theorem repeat_dedent (k : Nat) (st : State) : k.repeat (fun st : State => st.push .dedent) st =
    { st with tokens := List.replicate k ⟨.dedent, st.line⟩ ++ st.tokens } := by
  induction k with
  | zero => rfl
  | succ k ih =>
    rw [Nat.repeat, ih]
    rfl

/-- A line begins or ends the blocks that its margin makes. -/
theorem margin_fits {st : State} (hs : st.margins = blankMargins ms) (hp : ∀ k ∈ ms, 0 < k) (h : fitsAt ms m = true) :
    st.margin m m = some { st with margins := blankMargins (marginsAt ms m),
                                   tokens := (marginTokens ms m st.line).reverse ++ st.tokens } := by
  have hh : (blankMargins ms).headD (0, 0) = (ms.headD 0, ms.headD 0) := by cases ms <;> rfl
  unfold fitsAt at h
  simp only [State.margin, hs, hh]
  by_cases hm : ms.headD 0 < m
  · simp only [hm, if_true, decide_eq_true_eq] at h
    have hl : (decide ((blankMargins ms).length ≥ Lexer.blockLimit) || decide (m ≤ ms.headD 0)) = false := by
      simp only [blankMargins, List.length_map, Bool.or_eq_false_iff, decide_eq_false_iff_not]
      omega
    simp only [gt_iff_lt, hm, if_true, hl, Bool.false_eq_true, if_false, marginsAt, marginTokens]
    rfl
  · simp only [hm, if_false, beq_iff_eq] at h
    simp only [gt_iff_lt, hm, if_false, dedents_blank h hp, Option.map_some, repeat_dedent, marginsAt, marginTokens]
    simp [List.map_const']

/-! ## The tokens of a text -/

theorem pos_marginsAt (h : fitsAt ms m = true) (hp : ∀ k ∈ ms, 0 < k) : ∀ k ∈ marginsAt ms m, 0 < k := by
  unfold marginsAt
  split
  · intro k hk
    rcases List.mem_cons.mp hk with rfl | hk
    · omega
    · exact hp k hk
  · exact fun k hk => hp k (List.dropWhile_subset _ hk)

/-- Lines are noted as their tokens. -/
theorem foldlM_afterLine (hf : fits ms ls = true) (hp : ∀ k ∈ ms, 0 < k) (st : State) (hs : st.margins = blankMargins ms)
    (hb : st.brackets = []) :
    ∃ st', ls.foldlM afterLine st = some st' ∧ st'.close = some (st.tokens.reverse ++ layout ms st.line ls) := by
  induction ls generalizing ms st with
  | nil =>
    refine ⟨st, rfl, ?_⟩
    have hc : st.close = some ((st.margins.length.repeat (fun st : State => st.push .dedent) st).push .finish).tokens.reverse := by
      simp [State.close, hb]
    rw [hc, repeat_dedent, hs]
    simp [State.push, layout, blankMargins, List.map_const']
  | cons l ls ih =>
    cases l with
    | silent cs => exact ih hf hp { st with line := st.line + 1 } hs hb
    | written m is =>
      simp only [fits, Bool.and_eq_true] at hf
      -- After the line there are its end, its tokens and those of its margin.
      let st₁ : State :=
        { line := lineAfter st.line (lexemes is) + 1, margins := blankMargins (marginsAt ms m), brackets := st.brackets,
          tokens := ⟨.lineEnd, lineAfter st.line (lexemes is)⟩ ::
            ((tokensAt st.line (lexemes is)).reverse ++ ((marginTokens ms m st.line).reverse ++ st.tokens)) }
      obtain ⟨st', hst, hc⟩ := ih hf.2 (pos_marginsAt hf.1 hp) st₁ rfl hb
      refine ⟨st', ?_, hc.trans ?_⟩
      · rw [List.foldlM_cons, afterLine, margin_fits hs hp hf.1]
        exact hst
      · simp [st₁, layout, lineTokens]

/-- The tokens of good lines whose margins fit. -/
theorem tokens?_layout (hg : ∀ l ∈ ls, l.Good) (hne : ls ≠ []) (hr : '\r' ∉ sourceChars ls) (hf : fits [] ls = true) :
    Lexer.tokens? (sourceChars ls) = some (layout [] 1 ls) := by
  obtain ⟨st, hst, hc⟩ := foldlM_afterLine hf (by simp) {} rfl rfl
  rw [tokens?_lines hg hne hr hst, hc]
  rfl

/-- Where a quoted text goes on over its line, the text has no tokens. -/
theorem tokens?_newline {js : List Item} {cs : List Char} {us : List Line} (hg : ∀ l ∈ ls, l.Good)
    (hf : fits [] (ls ++ [.written m is]) = true) (hb : begins is = true) (hi : ∀ i ∈ is, i.Good)
    (hj : joints '"' is = true) (hn : ((lexemes is).foldlM nest []).isSome = true) (hs : '\\' ∉ cs) (hq : '"' ∉ cs)
    (hc : '\n' ∈ cs) (hr : '\r' ∉ sourceChars (ls ++ .written m (is ++ .quoted cs :: js) :: us)) :
    Lexer.tokens? (sourceChars (ls ++ .written m (is ++ .quoted cs :: js) :: us)) = none := by
  obtain ⟨bs, hn⟩ := Option.isSome_iff_exists.mp hn
  obtain ⟨st₂, h₂, -⟩ := foldlM_afterLine hf (by simp) {} rfl rfl
  rw [List.foldlM_append] at h₂
  obtain ⟨st, hst, h₂⟩ := Option.bind_eq_some_iff.mp h₂
  obtain ⟨st₃, h₃, -⟩ := Option.bind_eq_some_iff.mp h₂
  obtain ⟨st', hm, -⟩ := Option.map_eq_some_iff.mp h₃
  have ht := Lexer.token_newline hs hq hc ('"' :: (itemChars js ++ '\n' :: sourceChars us))
  refine tokens?_stuck ?_ hr (getLast?_sourceChars (by simp)) hg hst hm hb hi hj hn (by decide) ht
  rw [sourceChars_append, sourceChars_cons]
  simp [Line.chars, itemChars, Item.chars, Text.Quoted.escape_eq_self hs hq]

/-! ## Lines that are statements -/

/-- No class in the statements has a decorator. -/
def Bare (ss : List Stmt) : Prop := ∀ c ∈ Stmt.classesOf ss, c.decorators = []

theorem classesOf_append (ss ss' : List Stmt) : Stmt.classesOf (ss ++ ss') = Stmt.classesOf ss ++ Stmt.classesOf ss' := by
  induction ss with
  | nil => rfl
  | cons s ss ih => simp [Stmt.classesOf, ih]

theorem Bare.append {ss ss' : List Stmt} (h : Bare ss) (h' : Bare ss') : Bare (ss ++ ss') := by
  intro c hc
  rw [classesOf_append] at hc
  exact (List.mem_append.mp hc).elim (h c) (h' c)

/-- A statement without others in it is bare. -/
theorem bare_one {s : Stmt} (h : s.classes = []) : Bare [s] := by simp [Bare, Stmt.classesOf, h]

/-- The line is a bare statement by itself. -/
def SaysLine (d : Nat) (is : List Item) : Prop :=
  begins is = true ∧ ∀ n rest, ∃ ss, Says d (lineTokens n is rest) ss rest ∧ Bare ss

/-- The line is the head of a bare statement, whatever statements are in its block. -/
def SaysHead (d : Nat) (is : List Item) : Prop :=
  begins is = true ∧ ∀ n i j ts ss rest, Bare ss → SaysAll d ts ss (⟨.dedent, j⟩ :: rest) →
    atWord "elif" rest = false → atWord "else" rest = false →
      ∃ ss', Says (d + 1) (lineTokens n is (⟨.indent, i⟩ :: ts)) ss' rest ∧ Bare ss'

/-- From any line on, the lines `ls` up to `ls'` are bare statements in blocks with the margins `ms`. -/
def SaysLines (d : Nat) (ms : List Nat) (ls ls' : List Line) : Prop :=
  ∀ n, ∃ k ss, SaysAll d (layout ms n ls) ss (layout ms k ls') ∧ Bare ss

variable {d : Nat} {ls' : List Line}

theorem saysLines_done : SaysLines d ms ls ls := fun n => ⟨n, [], .done, by simp [Bare, Stmt.classesOf]⟩

theorem saysLines_silent {cs : List Char} (h : SaysLines d ms ls ls') : SaysLines d ms (.silent cs :: ls) ls' :=
  fun n => h (n + 1)

theorem endsBlock_lineTokens (h : begins is = true) (n : Nat) (rest : Tokens) :
    endsBlock (lineTokens n is rest) = false := by
  match is, h with
  | .word w :: is, _ =>
    have hw : lexemes (.word w :: is) = Lexer.wordLexeme w.toList :: lexemes is := rfl
    rw [lineTokens, hw, Lexer.wordLexeme]
    split <;> rfl
  | .mark m :: is, _ => rfl
  | .quoted cs :: is, _ => rfl
  | .formatted cs :: is, _ => rfl
  | .long cs :: is, _ => rfl

theorem SaysLine.mono {d' : Nat} (h : SaysLine d is) (hd : d ≤ d') : SaysLine d' is := by
  refine ⟨h.1, fun n rest => ?_⟩
  obtain ⟨ss, hs, hb⟩ := h.2 n rest
  exact ⟨ss, hs.mono hd, hb⟩

/-- A line with the margin of its block. -/
theorem layout_same : layout ms n (.written (ms.headD 0) is :: ls) =
    lineTokens n is (layout ms (lineAfter n (lexemes is) + 1) ls) := by
  cases ms <;> simp [layout, marginTokens, marginsAt]

/-- A line with a larger margin begins a block. -/
theorem layout_indent (h : ms.headD 0 < m) :
    layout ms n (.written m is :: ls) = ⟨.indent, n⟩ :: layout (m :: ms) n (.written m is :: ls) := by
  have hs : layout (m :: ms) n (.written ((m :: ms).headD 0) is :: ls) = _ := layout_same
  rw [List.headD_cons] at hs
  rw [hs]
  simp only [layout, marginTokens, marginsAt, if_pos h]
  rfl

theorem saysLines_line (h : SaysLine d is) (hl : SaysLines d ms ls ls') :
    SaysLines d ms (.written (ms.headD 0) is :: ls) ls' := by
  intro n
  obtain ⟨k, ss', hl, hb'⟩ := hl (lineAfter n (lexemes is) + 1)
  obtain ⟨ss, hs, hb⟩ := h.2 n (layout ms (lineAfter n (lexemes is) + 1) ls)
  refine ⟨k, ss ++ ss', ?_, hb.append hb'⟩
  rw [layout_same]
  exact .more hs (endsBlock_lineTokens h.1 n _) hl

theorem saysLines_all {iss : List (List Item)} (h : ∀ is ∈ iss, SaysLine d is) (hl : SaysLines d ms ls ls') :
    SaysLines d ms (iss.map (.written (ms.headD 0)) ++ ls) ls' := by
  induction iss with
  | nil => exact hl
  | cons is iss ih => exact saysLines_line (h is List.mem_cons_self) (ih fun js hj => h js (List.mem_cons_of_mem _ hj))

theorem SaysAll.mono {d' : Nat} {ts rest : Tokens} {ss : List Stmt} (h : SaysAll d ts ss rest) (hd : d ≤ d') :
    SaysAll d' ts ss rest := by
  induction h with
  | done => exact .done
  | more h hn _ ih => exact .more (h.mono hd) hn ih

theorem SaysLines.mono {d' : Nat} (h : SaysLines d ms ls ls') (hd : d ≤ d') : SaysLines d' ms ls ls' := by
  intro n
  obtain ⟨k, ss, hs, hb⟩ := h n
  exact ⟨k, ss, hs.mono hd, hb⟩

theorem SaysAll.trans {ts us rest : Tokens} {ss ss' : List Stmt} (h : SaysAll d ts ss us) (h' : SaysAll d us ss' rest) :
    SaysAll d ts (ss ++ ss') rest := by
  induction h with
  | done => exact h'
  | more h hn _ ih =>
    rw [List.append_assoc]
    exact .more h hn (ih h')

theorem SaysLines.trans {us : List Line} (h : SaysLines d ms ls us) (h' : SaysLines d ms us ls') : SaysLines d ms ls ls' := by
  intro n
  obtain ⟨k, ss, hs, hb⟩ := h n
  obtain ⟨k', ss', hs', hb'⟩ := h' k
  exact ⟨k', ss ++ ss', hs.trans hs', hb.append hb'⟩

/-- A line that opens a block, the block, and the lines after it. -/
theorem saysLines_block {js : List Item} {us : List Line} (h : SaysHead d is) (hm : ms.headD 0 < m)
    (hb : SaysLines d (m :: ms) (.written m js :: ls) us)
    (hd : ∀ k, layout (m :: ms) k us = ⟨.dedent, k⟩ :: layout ms k us)
    (hu : ∀ k, atWord "elif" (layout ms k us) = false ∧ atWord "else" (layout ms k us) = false)
    (hl : SaysLines (d + 1) ms us ls') :
    SaysLines (d + 1) ms (.written (ms.headD 0) is :: .written m js :: ls) ls' := by
  intro n
  obtain ⟨k, ss, hs, hbare⟩ := hb (lineAfter n (lexemes is) + 1)
  rw [hd] at hs
  obtain ⟨ss', hs', hbare'⟩ := h.2 n (lineAfter n (lexemes is) + 1) k _ ss _ hbare hs (hu k).1 (hu k).2
  obtain ⟨k', ss₁, hl, hbare₁⟩ := hl k
  refine ⟨k', ss' ++ ss₁, ?_, hbare'.append hbare₁⟩
  rw [layout_same, layout_indent hm]
  exact .more hs' (endsBlock_lineTokens h.1 n _) hl

/-! ## Sources of lines -/

theorem depth_lines {source : String} (hs : source.toList = sourceChars ls) (hne : ls ≠ []) :
    30 ≤ depthFor source.toList.length := by
  obtain ⟨l, ls, rfl⟩ := List.exists_cons_of_ne_nil hne
  rw [hs, sourceChars_cons, depthFor, List.length_append, List.length_cons]
  omega

/-- A source whose lines are all statements is read as bare statements. -/
theorem read?_lines {source : String} (hs : source.toList = sourceChars ls) (hg : ∀ l ∈ ls, l.Good) (hne : ls ≠ [])
    (hr : '\r' ∉ source.toList) (hf : fits [] ls = true) (h : SaysLines d [] ls []) (hd : d ≤ 30) :
    ∃ ss, read? source = some ss ∧ Bare ss := by
  obtain ⟨k, ss, h, hb⟩ := h 1
  have ht : Lexer.tokens? source.toList = some (layout [] 1 ls) := by
    rw [hs] at hr ⊢
    exact tokens?_layout hg hne hr hf
  exact ⟨ss, read?_of_saysAll ht h (Nat.le_trans hd (depth_lines hs hne)), hb⟩

/-- A source whose lines come to one that is no statement is not read. -/
theorem read?_lines_none {source : String} {us : List Line} (hs : source.toList = sourceChars ls)
    (hg : ∀ l ∈ ls, l.Good) (hne : ls ≠ []) (hr : '\r' ∉ source.toList) (hf : fits [] ls = true)
    (h : SaysLines d [] ls us) (hd : d ≤ 30) (hu : ∀ k, endsBlock (layout [] k us) = false)
    (hn : ∀ i k, statement i (layout [] k us) = none) : read? source = none := by
  obtain ⟨k, ss, h, -⟩ := h 1
  have ht : Lexer.tokens? source.toList = some (layout [] 1 ls) := by
    rw [hs] at hr ⊢
    exact tokens?_layout hg hne hr hf
  exact read?_of_stuck ht h (Nat.le_trans hd (depth_lines hs hne)) (hu k) (hn · k)

end CrudQueries.Source
