/-
  CrudQueries.Proofs.Source.Interpolation — literals as expressions.

  A quoted text is the text that it was written from (`joined_quoted`). A formatted literal is an
  expression if each of its fields is one; a name is (`isField_name`), and so is an attribute of a
  name (`isField_attribute`).
-/

import CrudQueries.Proofs.Source.Phrases
import CrudQueries.Proofs.Source.Written

namespace CrudQueries.Source

open CrudQueries.Text (isNameChars)
open CrudQueries.Text.Quoted (escape)
open Expression Literal

theorem joined_quoted (phrases : Phrases) (cs : List Char) :
    joinedLiterals phrases [⟨false, false, false, escape cs⟩] = some (.text (String.ofList cs)) := by
  simp [joinedLiterals, literalText, decode?_escape]

theorem joined_formatted {phrases : Phrases} {ps : List Part} (hp : arePlain ps)
    (hf : ∀ name ∈ fieldNames ps, isField phrases name = true) :
    joinedLiterals phrases [⟨false, false, true, written ps⟩] = some .other := by
  have ha : (fieldNames ps).all (isField phrases) = true := List.all_eq_true.mpr hf
  have hl : literalText phrases ⟨false, false, true, written ps⟩ = some none := by
    simp only [literalText, Bool.false_eq_true, if_false, if_true, fields?_written hp, Option.bind_eq_bind,
      Option.bind_some, ha]
  simp [joinedLiterals, hl]

/-! ## Fields -/

/-- The tokens of one line without its end. -/
theorem tokens?_line {is : List Item} (hg : (Line.written 0 is).Good) (hr : '\r' ∉ itemChars is)
    (hl : (itemChars is).getLast? ≠ some '\n') :
    Lexer.tokens? (itemChars is) = some (tokensAt 1 (lexemes is) ++
      [⟨.lineEnd, lineAfter 1 (lexemes is)⟩, ⟨.finish, lineAfter 1 (lexemes is) + 1⟩]) := by
  have hs : sourceChars [.written 0 is] = itemChars is ++ ['\n'] := by simp [sourceChars, Text.lineChars, Line.chars]
  have ht : Lexer.tokens? (sourceChars [.written 0 is]) = _ :=
    tokens?_lines (by simpa using hg) (by simp) (by rw [hs]; simpa using hr) rfl
  have hn : Lexer.tokens? (itemChars is) = Lexer.tokens? (itemChars is ++ ['\n']) := by
    have hr' : '\r' ∉ itemChars is ++ ['\n'] := by simpa using hr
    simp [Lexer.tokens?, Text.normalNewlines_eq_self hr, Text.normalNewlines_eq_self hr', hl]
  rw [hn, ← hs, ht]
  simp [Lexer.State.close, Lexer.State.push, Nat.repeat]

/-- An expression that is read between round brackets is the field of a formatted literal. -/
theorem isField_items (is : List Item) (hg : (Line.written 0 (.mark .openRound :: (is ++ [.mark .closeRound]))).Good)
    (hr : '\r' ∉ itemChars is) {d : Nat} {e : Expr}
    (h : ∀ rest, Reads d .atom (tokensAt 1 (lexemes (.mark .openRound :: (is ++ [.mark .closeRound]))) ++
      ⟨.lineEnd, lineAfter 1 (lexemes (.mark .openRound :: (is ++ [.mark .closeRound])))⟩ :: rest) e
      (⟨.lineEnd, lineAfter 1 (lexemes (.mark .openRound :: (is ++ [.mark .closeRound])))⟩ :: rest))
    {k : Nat} (hk : d ≤ k) : isField (phrase k) (itemChars is) = true := by
  have hc : '(' :: itemChars is ++ [')'] = itemChars (.mark .openRound :: (is ++ [.mark .closeRound])) := by
    simp [itemChars, Item.chars, Mark.text]
  have ht := tokens?_line hg (by rw [← hc]; simpa using hr) (by rw [← hc, List.getLast?_concat]; decide)
  rw [← hc] at ht
  simp only [isField, ht, h _ k hk]

/-- A name is the field of a formatted literal. -/
theorem isField_name {w : String} (hw : isNameChars w.toList = true) (hn : isKeyword w = false) {k : Nat} (hk : 9 ≤ k) :
    isField (phrase k) w.toList = true := by
  have hl : Lexer.wordLexeme w.toList = .name w := by simp [Lexer.wordLexeme, hn]
  have hr : '\r' ∉ w.toList := fun hm => by
    have := (Text.mem_isNameChars hw).2 _ hm
    revert this
    decide
  have hi := isField_items [.word w] (d := 9) (e := .name w) ?_ (by simpa [itemChars, Item.chars] using hr) ?_ hk
  · simpa [itemChars, Item.chars] using hi
  · refine ⟨rfl, ?_, ?_, ?_⟩
    · simp [Item.Good, hw]
    · simp [joints, nextChar, Item.endsAt, Item.chars, Mark.text, Mark.endsAt]
      decide
    · simp [lexemes, Item.lexeme?, hl, nest, Mark.text, Lexer.State.bracket, Lexer.closes, Lexer.bracketLimit]
  · intro rest
    simp [lexemes, Item.lexeme?, hl, tokensAt, lineAfter, Lexeme.lines, Mark.text]
    exact reads_round ((name_expression rfl).named (by intro s n r h; cases h; exact ⟨by simp, by simp⟩)) rfl

/-- An attribute of a name is the field of a formatted literal. -/
theorem isField_attribute {k : Nat} (hk : 9 ≤ k) : isField (phrase k) "cls.__qualname__".toList = true := by
  have hc : Lexer.wordLexeme "cls".toList = .name "cls" := by decide
  have hq : Lexer.wordLexeme "__qualname__".toList = .name "__qualname__" := by decide
  have hi := isField_items [.word "cls", .mark .dot, .word "__qualname__"] (d := 9)
    (e := .attribute (.name "cls") "__qualname__") ?_ (by decide) ?_ hk
  · exact hi
  · refine ⟨rfl, ?_, ?_, ?_⟩
    · simp only [List.cons_append, List.nil_append, List.mem_cons, List.not_mem_nil, or_false, forall_eq_or_imp,
        forall_eq, Item.Good, true_and, and_true]
      exact ⟨by decide, by decide⟩
    · decide
    · decide
  · intro rest
    simp only [lexemes, List.cons_append, List.nil_append, List.filterMap_cons, List.filterMap_nil, Item.lexeme?, hc, hq,
      tokensAt, lineAfter, Lexeme.lines, Mark.text]
    exact reads_round (((reads_attribute rfl).toExpression rfl rfl).named
      (by intro s n r h; cases h; exact ⟨by simp, by simp⟩)) rfl

end CrudQueries.Source
