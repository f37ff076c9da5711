/-
  CrudQueries.Proofs.Source.Forms — lines of common forms.

  A text between triple quotes, the assignment of a literal or of a list with one text, and the head
  of a class: each is a good line, and a statement or the head of one.
-/

import CrudQueries.Proofs.Source.Interpolation
import CrudQueries.Proofs.Source.Layout

namespace CrudQueries.Source

open CrudQueries.Text (isNameChars)
open CrudQueries.Text.Quoted (escape escape_eq_self)
open Lexer (wordLexeme)

variable {w : String} {cs : List Char} {d m : Nat}

/-- Can a class have the name? -/
def isClassName (w : String) : Bool := isNameChars w.toList && !isKeyword w

/-! ## The lexemes of a line -/

@[simp] theorem lexemes_nil : lexemes [] = [] := rfl

@[simp] theorem lexemes_gap (is : List Item) : lexemes (.gap :: is) = lexemes is := rfl

@[simp] theorem lexemes_mark (k : Mark) (is : List Item) : lexemes (.mark k :: is) = .symbol k.text :: lexemes is := rfl

@[simp] theorem lexemes_quoted (cs : List Char) (is : List Item) :
    lexemes (.quoted cs :: is) = .literal ⟨false, false, false, escape cs⟩ :: lexemes is := rfl

@[simp] theorem lexemes_formatted (cs : List Char) (is : List Item) :
    lexemes (.formatted cs :: is) = .literal ⟨false, false, true, escape cs⟩ :: lexemes is := rfl

@[simp] theorem lexemes_long (cs : List Char) (is : List Item) :
    lexemes (.long cs :: is) = .literal ⟨false, false, false, cs⟩ :: lexemes is := rfl

theorem lexemes_word (w : String) (is : List Item) : lexemes (.word w :: is) = wordLexeme w.toList :: lexemes is := rfl

theorem lexemes_name (h : isKeyword w = false) (is : List Item) : lexemes (.word w :: is) = .name w :: lexemes is := by
  simp [lexemes_word, wordLexeme, h]

theorem lexemes_keyword (h : isKeyword w = true) (is : List Item) :
    lexemes (.word w :: is) = .keyword w :: lexemes is := by
  simp [lexemes_word, wordLexeme, h]

theorem nest_word (w : String) (open' : List String) : nest open' (wordLexeme w.toList) = some open' := by
  unfold wordLexeme
  split <;> rfl

@[simp] theorem tokensAt_nil (n : Nat) : tokensAt n [] = [] := rfl

@[simp] theorem tokensAt_cons (n : Nat) (l : Lexeme) (ls : List Lexeme) :
    tokensAt n (l :: ls) = ⟨l, n⟩ :: tokensAt (n + l.lines) ls := rfl

/-! ## Forms -/

/-- A text between triple quotes. -/
theorem good_long (hb : '\\' ∉ cs) (hq : '"' ∉ cs) : (Line.written m [.long cs]).Good :=
  ⟨rfl, by simp [Item.Good, hb, hq], rfl, rfl⟩

theorem saysLine_long (hb : '\\' ∉ cs) (hq : '"' ∉ cs) : SaysLine 9 [.long cs] := by
  refine ⟨rfl, fun n rest => ⟨[.other], ?_, bare_one rfl⟩⟩
  have hl : ∀ k, 0 ≤ k → Expression.joinedLiterals (phrase k) [⟨false, false, false, cs⟩] = some (.text (String.ofList cs)) := by
    intro k _
    have := joined_quoted (phrase k) cs
    rwa [escape_eq_self hb hq] at this
  exact says_expression (literal_expression hl rfl) rfl rfl (by simp only [lineTokens, List.length_append, List.length_cons]; omega)

/-- The assignment of a literal. -/
theorem saysLine_assign {i : Item} {l : Literal} {e : Expr} (hk : isKeyword w = false) (hn : w ≠ "match")
    (hi : lexemes [i] = [.literal l]) (h : ∀ k, d ≤ k → Expression.joinedLiterals (phrase k) [l] = some e) :
    SaysLine (d + 9) [.word w, .gap, .mark .equals, .gap, i] := by
  refine ⟨rfl, fun n rest => ⟨[.assign [.name w] e], ?_, bare_one rfl⟩⟩
  have hl : lexemes [.word w, .gap, .mark .equals, .gap, i] = [.name w, .symbol "=", .literal l] := by
    rw [lexemes_name hk, lexemes_gap, lexemes_mark, lexemes_gap, hi]
    rfl
  simp only [lineTokens, hl, tokensAt_cons, tokensAt_nil, List.cons_append, List.nil_append]
  exact says_assign (by omega) (literal_expression h rfl) rfl hn (by simp only [List.length_cons]; omega)

theorem good_assign {i : Item} {l : Literal} (hw : isNameChars w.toList = true) (hi : lexemes [i] = [.literal l])
    (hg : i.Good) (he : i.endsAt '\n' = true) : (Line.written m [.word w, .gap, .mark .equals, .gap, i]).Good := by
  refine ⟨rfl, ?_, ?_, ?_⟩
  · intro j hj
    simp only [List.mem_cons, List.not_mem_nil, or_false] at hj
    rcases hj with rfl | rfl | rfl | rfl | rfl
    · exact hw
    · trivial
    · trivial
    · trivial
    · exact hg
  · simp only [joints, nextChar, he]
    rfl
  · rw [lexemes_word, lexemes_gap, lexemes_mark, lexemes_gap, hi, List.foldlM_cons, nest_word]
    rfl

/-- The assignment of a list with one text. -/
theorem saysLine_list (hk : isKeyword w = false) (hn : w ≠ "match") :
    SaysLine 17 [.word w, .gap, .mark .equals, .gap, .mark .openSquare, .quoted cs, .mark .closeSquare] := by
  refine ⟨rfl, fun n rest => ⟨[.assign [.name w] (.list [.text (String.ofList cs)])], ?_, bare_one rfl⟩⟩
  have hl : ∀ k, 0 ≤ k → Expression.joinedLiterals (phrase k) [⟨false, false, false, escape cs⟩] =
    some (.text (String.ofList cs)) := fun k _ => joined_quoted (phrase k) cs
  have ha : ∀ (l : Literal) (i : Nat) (ts : Tokens), assignsNothing (⟨.literal l, i⟩ :: ts) := by
    intro l i ts s n r h; cases h
  simp only [lineTokens, lexemes_name hk, lexemes_gap, lexemes_mark, lexemes_quoted, lexemes_nil, tokensAt_cons,
    tokensAt_nil, List.cons_append, List.nil_append, Mark.text]
  exact says_assign (by omega) (((reads_square ((literal_expression hl rfl).named (ha _ _ _)) rfl).primary rfl).toExpression
    rfl rfl) rfl hn (by simp only [List.length_cons]; omega)

theorem good_list (hw : isNameChars w.toList = true) (hc : '\n' ∉ cs) :
    (Line.written m [.word w, .gap, .mark .equals, .gap, .mark .openSquare, .quoted cs, .mark .closeSquare]).Good := by
  refine ⟨rfl, by simp [Item.Good, hw, hc], rfl, ?_⟩
  rw [lexemes_word, List.foldlM_cons, nest_word]
  rfl

/-- The head of a class without bases. -/
theorem saysHead_class (hk : isKeyword w = false) : SaysHead d [.word "class", .gap, .word w, .mark .colon] := by
  refine ⟨rfl, fun n i j ts ss rest hb hs _ _ => ⟨[.classDef w n [] ss], ?_, ?_⟩⟩
  · rw [lineTokens, lexemes_keyword (by decide), lexemes_gap, lexemes_name hk]
    exact says_class hs
  · intro c hc
    simp only [Stmt.classesOf, Stmt.classes, List.append_nil, List.mem_cons] at hc
    rcases hc with rfl | hc
    · rfl
    · exact hb c hc

theorem good_class (hw : isNameChars w.toList = true) : (Line.written m [.word "class", .gap, .word w, .mark .colon]).Good := by
  refine ⟨rfl, by simp [Item.Good, hw]; decide, rfl, ?_⟩
  rw [lexemes_word, lexemes_gap, lexemes_word, List.foldlM_cons, nest_word]
  change List.foldlM nest [] _ = _
  rw [List.foldlM_cons, nest_word]
  rfl

/-- A class cannot have a keyword for its name. -/
theorem statement_keyword (hk : isKeyword w = true) (ls : List Line) (i n : Nat) :
    statement i (layout [] n (.written 0 [.word "class", .gap, .word w, .mark .colon] :: ls)) = none := by
  have hl : layout [] n (.written 0 [.word "class", .gap, .word w, .mark .colon] :: ls) = _ := layout_same
  rw [hl, lineTokens, lexemes_keyword (show isKeyword "class" = true by decide), lexemes_gap, lexemes_keyword hk]
  exact statement_class_none rfl i

end CrudQueries.Source
