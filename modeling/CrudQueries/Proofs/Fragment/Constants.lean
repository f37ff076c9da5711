/-
  CrudQueries.Proofs.Fragment.Constants — what a mixin class binds its constants to.

  The statements of a fragment are written twice: as SQL over the joins (`Query.Artifacts.build`)
  and as formatted literals over the constants of the joins, with the table's braces doubled and
  then everything escaped. Read back line by line and evaluated from top to bottom, the literals
  give the SQL (`render_constants`), whatever characters the names and the table hold, as long as
  each of them stays on its line.
-/

import CrudQueries.Fragment.Render
import CrudQueries.Proofs.Query.Pieces
import CrudQueries.Proofs.Source.Token
import CrudQueries.Proofs.Text.Lines
import Mathlib.Data.List.TakeWhile

namespace CrudQueries.Fragment

open Query
open CrudQueries.Source (Lexer.token Lexer.token_word Lexer.token_quoted Lexer.token_formatted Literal.value?)
open CrudQueries.Source.Literal (decode?_escape formattedValue_written)
open CrudQueries.Text (isNameChars isOneLine isOneLine_iff lineChars not_mem_append not_mem_of_isOneLine splitOnChar)
open CrudQueries.Text.Quoted (escape quote literalBraces)

/-! ## Reading a class body -/

/-- The lines of the class that a source ends with. -/
def classBody (source : String) : List (List Char) :=
  let lines := splitOnChar '\n' (Text.normalNewlines source.toList)
  let body := (lines.dropWhile fun l => !"class ".toList.isPrefixOf l).drop 1
  body.takeWhile fun l => l.head?.all (· == ' ')

/-- The name and the literal of a line that assigns a literal to a name. -/
def assignment? (line : List Char) : Option (String × Source.Literal) :=
  match Lexer.token (line.dropWhile (· == ' ')) with
  | some (.name name, ' ' :: '=' :: ' ' :: value) =>
    match Lexer.token (value ++ ['\n']) with
    | some (.literal l, ['\n']) => some (name, l)
    | _ => none
  | _ => none

/-- The assignments of a class body, in order. -/
def assignments (source : String) : List (String × Source.Literal) := (classBody source).filterMap assignment?

/-- The constants after the assignments, the last one first; each literal sees the constants
  before it. -/
def evaluate (constants : List (String × List Char)) :
    List (String × Source.Literal) → Option (List (String × List Char))
  | [] => some constants
  | (name, l) :: rest => do
    let value ← Literal.value? constants l
    evaluate ((name, value) :: constants) rest

/-! ## One assignment -/

theorem assignment?_word {name : String} (hn : isNameChars name.toList = true) (hk : Source.isKeyword name = false)
    (value : List Char) :
    Lexer.token (("    " ++ name ++ " = ").toList ++ value |>.dropWhile (· == ' ')) =
      some (.name name, ' ' :: '=' :: ' ' :: value) := by
  obtain ⟨c, w, hw⟩ := List.exists_cons_of_ne_nil (Text.mem_isNameChars hn).1
  have hc : (c == ' ') = false := by
    have := (Text.mem_isNameChars hn).2 c (by simp [hw])
    cases hb : c == ' '
    · rfl
    · rw [beq_iff_eq] at hb; subst hb; exact absurd this (by decide)
  have ht := Lexer.token_word hn (d := ' ') (by decide) ('=' :: ' ' :: value)
  rw [hw] at ht
  have hd : (("    " ++ name ++ " = ").toList ++ value).dropWhile (· == ' ') =
      c :: (w ++ ' ' :: '=' :: ' ' :: value) := by
    simp [String.toList_append, hw, hc]
  rw [hd, ← List.cons_append, ht, ← hw, Source.Lexer.wordLexeme, String.ofList_toList, hk]
  rfl

/-- A line that binds a name to a quoted text. -/
theorem assignment?_quote {name : String} (hn : isNameChars name.toList = true) (hk : Source.isKeyword name = false)
    {v : String} (hv : '\n' ∉ v.toList) :
    assignment? ("    " ++ (name ++ " = " ++ quote v)).toList =
      some (name, ⟨false, false, false, escape v.toList⟩) := by
  have hq := Lexer.token_quoted hv (d := '\n') (by decide) []
  have hw := assignment?_word hn hk (quote v).toList
  rw [← String.append_assoc, ← String.append_assoc, String.toList_append, assignment?, hw]
  simp [hq]

/-- A line that binds a name to a formatted literal. -/
theorem assignment?_formatted {name : String} (hn : isNameChars name.toList = true)
    (hk : Source.isKeyword name = false) {v : String} (hv : '\n' ∉ v.toList) :
    assignment? ("    " ++ (name ++ " = f" ++ quote v)).toList =
      some (name, ⟨false, false, true, escape v.toList⟩) := by
  have hq := Lexer.token_formatted hv (d := '\n') (by decide) []
  have hw := assignment?_word hn hk ('f' :: (quote v).toList)
  have hl : ("    " ++ (name ++ " = f" ++ quote v)).toList =
      ("    " ++ name ++ " = ").toList ++ 'f' :: (quote v).toList := by simp [String.toList_append]
  rw [hl, assignment?, hw]
  simp [hq]

/-! ## The class body -/

/-- A line that begins with a name is indented. -/
theorem indented_word {name : String} (hn : isNameChars name.toList = true) (rest : String) :
    Text.isBlankText (name ++ rest) = false := by
  obtain ⟨c, w, hw⟩ := List.exists_cons_of_ne_nil (Text.mem_isNameChars hn).1
  have hc := Text.isBlank_of_isNameChar ((Text.mem_isNameChars hn).2 c (by simp [hw]))
  simp [Text.isBlankText, String.toList_append, hw, hc]

/-- The body of a class that ends a source is what follows the line that opens the class. -/
theorem classBody_endLines {heads body : List String} {opening : String}
    (hh : ∀ l ∈ heads, "class ".toList.isPrefixOf l.toList = false) (ho : "class ".toList.isPrefixOf opening.toList = true)
    (hb : ∀ l ∈ body, l.toList.head?.all (· == ' ') = true)
    (hl : ∀ l ∈ heads ++ opening :: body, isOneLine l = true) :
    classBody (Text.endLines (heads ++ opening :: body)) = body.map String.toList ++ [[]] := by
  have hn : ∀ l ∈ (heads ++ opening :: body).map String.toList, '\n' ∉ l := by
    intro l hm
    obtain ⟨s, hs, rfl⟩ := List.mem_map.mp hm
    exact not_mem_of_isOneLine (hl s hs) (by simp)
  have hr : '\r' ∉ lineChars ((heads ++ opening :: body).map String.toList) := by
    intro hm
    rcases Text.mem_lineChars hm with hm | ⟨l, hm, hc⟩
    · exact absurd hm (by decide)
    · obtain ⟨s, hs, rfl⟩ := List.mem_map.mp hm
      exact not_mem_of_isOneLine (hl s hs) (by simp) hc
  -- The heads are dropped, and every line after the opening one begins with a space.
  have hd : ((heads ++ opening :: body).map String.toList ++ [[]]).dropWhile
      (fun l => !"class ".toList.isPrefixOf l) = opening.toList :: (body.map String.toList ++ [[]]) := by
    rw [List.map_append, List.append_assoc, List.dropWhile_append_of_pos, List.map_cons, List.cons_append,
      List.dropWhile_cons_of_neg (by rw [ho]; decide)]
    intro l hm
    obtain ⟨s, hs, rfl⟩ := List.mem_map.mp hm
    rw [hh s hs]; rfl
  have ht : ∀ l ∈ body.map String.toList ++ [[]], l.head?.all (· == ' ') = true := by
    intro l hm
    rcases List.mem_append.mp hm with hm | hm
    · obtain ⟨s, hs, rfl⟩ := List.mem_map.mp hm
      exact hb s hs
    · simp only [List.mem_singleton] at hm; subst hm; rfl
  rw [classBody, Text.toList_endLines _ (by simp), Text.normalNewlines_eq_self hr, Text.splitOnChar_lineChars hn]
  simp only [hd, List.drop_one, List.tail_cons]
  exact List.takeWhile_eq_self_iff.mpr ht

/-! ## The assignments of a mixin -/

theorem constant_word (j : Join) : isNameChars j.constant.toList = true ∧ Source.isKeyword j.constant = false := by
  cases j <;> decide

theorem statement_word (s : Statement) :
    isNameChars s.constant.toList = true ∧ Source.isKeyword s.constant = false := by
  cases s <;> decide

/-- A quoted text as a literal. -/
def plainLiteral (v : String) : Source.Literal := ⟨false, false, false, escape v.toList⟩

/-- A quoted text as a formatted literal. -/
def formattedLiteral (v : String) : Source.Literal := ⟨false, false, true, escape v.toList⟩

/-- The lines of a mixin before its class. -/
def mixinHead (settings : Settings) (e : Entity) (table : String) : List String := [
  header .python,
  "\"\"\"CRUD queries for ``" ++ e.typeName ++ "`` on table ``" ++ table ++ "``.\"\"\"",
  "",
  "__all__ = [\"" ++ mixinName settings e ++ "\"]",
  "",
  ""]

/-- What a mixin class says about itself. -/
def summary (e : Entity) : String :=
  "\"\"\"Query constants for ``" ++ e.typeName ++ "`` (" ++ ", ".intercalate e.fields ++ ").\"\"\""

/-- The lines that bind the joins. -/
def joinLines (e : Entity) : List String :=
  Join.all.map fun j => j.constant ++ " = " ++ quote (j.text e.fields)

/-- The lines that bind the statements. -/
def statementLines (table : String) : List String :=
  Statement.all.map fun s => s.constant ++ " = f" ++ quote (s.text placeholderJoins (literalBraces table))

theorem isBlankText_summary (e : Entity) : Text.isBlankText (summary e) = false := by
  unfold summary
  simp [Text.isBlankText, String.toList_append, show Text.isBlank '"' = false by decide]

theorem indentLines_words {lines : List String} (h : ∀ l ∈ lines, Text.isBlankText l = false) :
    Text.indentLines lines = lines.map ("    " ++ ·) := by
  rw [Text.indentLines_eq]
  exact List.map_congr_left fun l hl => by simp [h l hl]

theorem joinLines_indented (e : Entity) : ∀ l ∈ joinLines e, Text.isBlankText l = false := by
  intro l hl
  obtain ⟨j, -, rfl⟩ := List.mem_map.mp hl
  rw [String.append_assoc]
  exact indented_word (constant_word j).1 _

theorem statementLines_indented (table : String) : ∀ l ∈ statementLines table, Text.isBlankText l = false := by
  intro l hl
  obtain ⟨s, -, rfl⟩ := List.mem_map.mp hl
  rw [String.append_assoc]
  exact indented_word (statement_word s).1 _

/-- The lines of a mixin. -/
def mixinText (settings : Settings) (e : Entity) (table : String) : List String :=
  mixinHead settings e table ++ ("class " ++ mixinName settings e ++ ":") ::
    ("    " ++ summary e) :: "" :: ((joinLines e).map ("    " ++ ·) ++ "" :: (statementLines table).map ("    " ++ ·))

theorem mixin_eq (settings : Settings) (e : Entity) (table : String) :
    mixin settings e table = Text.endLines (mixinText settings e table) := by
  have hj := indentLines_words (joinLines_indented e)
  have hs := indentLines_words (statementLines_indented table)
  have hb : Text.indentLines ([summary e, ""] ++ joinLines e ++ [""] ++ statementLines table) =
      ("    " ++ summary e) :: "" :: ((joinLines e).map ("    " ++ ·) ++
        "" :: (statementLines table).map ("    " ++ ·)) := by
    rw [Text.indentLines_eq] at hj hs ⊢
    rw [List.map_append, List.map_append, List.map_append, hj, hs]
    simp [isBlankText_summary, show Text.isBlankText "" = true by decide]
  have hc : (Joins.of e.fields).constants = Join.all.map fun j => (j.constant, j.text e.fields) := by
    simp only [Joins.constants, Joins.get_of]
  rw [mixinText, ← hb, mixin, hc, interpolatedStatements, List.map_map, List.map_map]
  rfl

/-! ## Everything stays on its line -/

/-- The texts of a type and its settings that a mixin holds stay on their lines. -/
structure StaysOnLine (settings : Settings) (e : Entity) (table : String) : Prop where
  typeName : isOneLine e.typeName = true
  fields : ∀ f ∈ e.fields, isOneLine f = true
  table : isOneLine table = true
  suffix : isOneLine settings.mixinSuffix = true

/-- What the joins add to the fields. -/
def joinChars : List Char := "@=COALESCE(,)".toList

theorem mem_join {c : Char} {fields : List String} {j : Join} (h : c ∈ (j.text fields).toList) :
    (∃ f ∈ fields, c ∈ f.toList) ∨ c ∈ joinChars := by
  have hsub : ∀ s : String, s.toList.all (joinChars.contains ·) = true → c ∈ s.toList → c ∈ joinChars :=
    fun s hs hc => List.contains_iff_mem.mp (List.all_eq_true.mp hs c hc)
  rcases Text.mem_intercalate h with h | ⟨s, hs, h⟩
  · exact Or.inr (hsub "," (by decide) h)
  · obtain ⟨f, hf, rfl⟩ := List.mem_map.mp hs
    by_cases hm : c ∈ f.toList
    · exact Or.inl ⟨f, hf, hm⟩
    · refine Or.inr ?_
      cases j <;> simp only [Join.segment, keepingValue, parameter, String.toList_append, List.mem_append, hm, or_false,
        false_or] at h
      case parameters => exact hsub _ (by decide) h
      case assignments => rcases h with h | h <;> exact hsub _ (by decide) h
      case keepingAssignments => rcases h with h | ((h | h) | h) | h <;> exact hsub _ (by decide) h
      case keepingValues => rcases h with ((h | h) | h) | h <;> exact hsub _ (by decide) h

theorem not_mem_join {c : Char} {fields : List String} (hc : c ∈ ['\n', '\r', '\x00']) (h : ∀ f ∈ fields, c ∉ f.toList)
    (j : Join) : c ∉ (j.text fields).toList := by
  intro hm
  rcases mem_join hm with ⟨f, hf, hm⟩ | hm
  · exact h f hf hm
  · revert hm
    simp only [List.mem_cons, List.not_mem_nil, or_false] at hc
    rcases hc with rfl | rfl | rfl <;> decide

theorem not_mem_statement {c : Char} {table : String} (hc : c ∈ ['\n', '\r', '\x00']) (h : c ∉ table.toList) (s : Statement) :
    c ∉ (s.text placeholderJoins (literalBraces table)).toList := by
  refine Statement.not_mem_text hc (fun j => ?_) (fun hm => ?_) s
  · have hj : isOneLine (placeholderJoins.get j) = true := by
      rw [get_placeholderJoins]
      cases j <;> decide
    exact not_mem_of_isOneLine hj hc
  · rw [Text.Quoted.toList_literalBraces] at hm
    exact h (Text.Quoted.mem_doubleBraces hm)

variable {settings : Settings} {e : Entity} {table : String}

/-- A character that would break a line comes into a mixin from the texts of the type and the settings alone. -/
theorem not_mem_mixin {c : Char} (hc : c ∈ ['\n', '\r', '\x00']) (ht : c ∉ e.typeName.toList)
    (hf : ∀ f ∈ e.fields, c ∉ f.toList) (htable : c ∉ table.toList) (hs : c ∉ settings.mixinSuffix.toList) :
    ∀ l ∈ mixinText settings e table, c ∉ l.toList := by
  have hclosed : ∀ s : String, isOneLine s = true → c ∉ s.toList := fun s h => not_mem_of_isOneLine h hc
  have hm : c ∉ (mixinName settings e).toList := not_mem_append ht hs
  have hi : c ∉ (", ".intercalate e.fields).toList := fun h => by
    rcases Text.mem_intercalate h with h | ⟨f, hf', h⟩
    · exact hclosed ", " (by decide) h
    · exact hf f hf' h
  have hq : ∀ s : String, c ∉ s.toList → c ∉ (quote s).toList := fun s hs h => by
    rcases Text.mem_quote h with h | rfl | rfl
    · exact hs h
    · exact absurd hc (by decide)
    · exact absurd hc (by decide)
  intro l hl
  simp only [mixinText, mixinHead, List.mem_append, List.mem_cons, List.not_mem_nil, or_false, List.mem_map] at hl
  rcases hl with (rfl | rfl | rfl | rfl | rfl | rfl) | rfl | rfl | rfl | ⟨l, hl, rfl⟩ | rfl | ⟨l, hl, rfl⟩
  · exact hclosed _ (by decide)
  · exact not_mem_append (not_mem_append (not_mem_append (not_mem_append (hclosed _ (by decide)) ht) (hclosed _ (by decide)))
      htable) (hclosed _ (by decide))
  · exact hclosed _ (by decide)
  · exact not_mem_append (not_mem_append (hclosed _ (by decide)) hm) (hclosed _ (by decide))
  · exact hclosed _ (by decide)
  · exact hclosed _ (by decide)
  · exact not_mem_append (not_mem_append (hclosed _ (by decide)) hm) (hclosed _ (by decide))
  · unfold summary
    exact not_mem_append (hclosed _ (by decide)) (not_mem_append (not_mem_append (not_mem_append (not_mem_append (hclosed _ (by decide))
      ht) (hclosed _ (by decide))) hi) (hclosed _ (by decide)))
  · exact hclosed _ (by decide)
  · obtain ⟨j, -, rfl⟩ := List.mem_map.mp hl
    exact not_mem_append (hclosed _ (by decide)) (not_mem_append (hclosed _ (by cases j <;> decide))
      (hq _ (not_mem_join hc hf j)))
  · exact hclosed _ (by decide)
  · obtain ⟨s, -, rfl⟩ := List.mem_map.mp hl
    exact not_mem_append (hclosed _ (by decide)) (not_mem_append (hclosed _ (by cases s <;> decide))
      (hq _ (not_mem_statement hc htable s)))

theorem isOneLine_mixin (h : StaysOnLine settings e table) : ∀ l ∈ mixinText settings e table, isOneLine l = true :=
  fun l hl => isOneLine_iff.mpr fun _ hc => not_mem_mixin hc (not_mem_of_isOneLine h.typeName hc)
    (fun f hf => not_mem_of_isOneLine (h.fields f hf) hc) (not_mem_of_isOneLine h.table hc)
    (not_mem_of_isOneLine h.suffix hc) l hl

/-! ## Reading a mixin -/

/-- A docstring assigns nothing. -/
theorem assignment?_summary (e : Entity) : assignment? ("    " ++ summary e).toList = none := by
  have hd : ∃ cs, ("    " ++ summary e).toList.dropWhile (· == ' ') = '"' :: cs := by
    unfold summary
    exact ⟨_, by simp [String.toList_append]; rfl⟩
  obtain ⟨cs, hd⟩ := hd
  rw [assignment?, hd]
  simp only [Lexer.token, show Source.Lexer.mayStartName '"' = false by decide,
    show Source.Lexer.isQuote '"' = true by decide, Bool.false_eq_true, if_false, if_true]
  cases Source.Lexer.literalBody '"' ('"' :: cs) <;> rfl

/-- The class body of a mixin has the twelve assignments and no other. -/
theorem assignments_mixin (h : StaysOnLine settings e table) : assignments (mixin settings e table) =
    Join.all.map (fun j => (j.constant, plainLiteral (j.text e.fields))) ++
      Statement.all.map fun s =>
        (s.constant, formattedLiteral (s.text placeholderJoins (literalBraces table))) := by
  have hh : ∀ l ∈ mixinHead settings e table, "class ".toList.isPrefixOf l.toList = false := by
    intro l hl
    simp only [mixinHead, List.mem_cons, List.not_mem_nil, or_false] at hl
    rcases hl with rfl | rfl | rfl | rfl | rfl | rfl
    · decide
    · simp [String.toList_append, List.isPrefixOf]
    · decide
    · simp [String.toList_append, List.isPrefixOf]
    · decide
    · decide
  -- No line of the class ends its body: each is blank or begins with four spaces.
  have hb : ∀ l ∈ ("    " ++ summary e) :: "" :: ((joinLines e).map ("    " ++ ·) ++
      "" :: (statementLines table).map ("    " ++ ·)), l.toList.head?.all (· == ' ') = true := by
    have hi : ∀ l : String, ("    " ++ l).toList.head?.all (· == ' ') = true := fun l => by simp [String.toList_append]
    intro l hl
    simp only [List.mem_append, List.mem_cons, List.mem_map] at hl
    rcases hl with rfl | rfl | ⟨l, -, rfl⟩ | rfl | ⟨l, -, rfl⟩
    · exact hi _
    · rfl
    · exact hi _
    · rfl
    · exact hi _
  have hj : ((joinLines e).map ("    " ++ ·)).filterMap (fun l => assignment? l.toList) =
      Join.all.map fun j => (j.constant, plainLiteral (j.text e.fields)) := by
    rw [joinLines, List.map_map, List.filterMap_map, ← List.filterMap_eq_map]
    refine List.filterMap_congr fun j _ => ?_
    exact assignment?_quote (constant_word j).1 (constant_word j).2
      (not_mem_join (by simp) (fun f hf => not_mem_of_isOneLine (h.fields f hf) (by simp)) j)
  have hs : ((statementLines table).map ("    " ++ ·)).filterMap (fun l => assignment? l.toList) =
      Statement.all.map fun s => (s.constant, formattedLiteral (s.text placeholderJoins (literalBraces table))) := by
    rw [statementLines, List.map_map, List.filterMap_map, ← List.filterMap_eq_map]
    refine List.filterMap_congr fun s _ => ?_
    exact assignment?_formatted (statement_word s).1 (statement_word s).2
      (not_mem_statement (by simp) (not_mem_of_isOneLine h.table (by simp)) s)
  have he : assignment? [] = none := rfl
  rw [assignments, mixin_eq, mixinText, classBody_endLines hh (by simp [String.toList_append]) hb (isOneLine_mixin h),
    List.filterMap_append, List.filterMap_map]
  simp only [Function.comp_def, List.filterMap_cons, List.filterMap_append, assignment?_summary, String.toList_empty,
    he, hj, hs, List.filterMap_nil, List.append_nil]

/-! ## Evaluation -/

theorem evaluate_append (constants : List (String × List Char)) (xs ys : List (String × Source.Literal)) :
    evaluate constants (xs ++ ys) = (evaluate constants xs).bind fun constants => evaluate constants ys := by
  induction xs generalizing constants with
  | nil => rfl
  | cons x xs ih =>
    cases hv : Literal.value? constants x.2 with
    | none => simp [evaluate, hv]
    | some v => simp [evaluate, hv, ih]

/-- Quoted texts stand for the texts, whatever is bound already. -/
theorem evaluate_plain {α : Type} (name value : α → String) (xs : List α) (constants : List (String × List Char)) :
    evaluate constants (xs.map fun x => (name x, plainLiteral (value x))) =
      some ((xs.map fun x => (name x, (value x).toList)).reverse ++ constants) := by
  induction xs generalizing constants with
  | nil => rfl
  | cons x xs ih =>
    have hv : Literal.value? constants (plainLiteral (value x)) = some (value x).toList := by
      simp [Literal.value?, plainLiteral, decode?_escape]
    simp [evaluate, hv, ih]

/-- The literals of statements stand for the statements over the joins that are bound. -/
theorem evaluate_statements (joins : Joins) (table : String) (ss : List Statement)
    (constants : List (String × List Char))
    (h : ∀ j, constants.lookup (Join.constant j) = some (joins.get j).toList) :
    evaluate constants (ss.map fun s =>
        (s.constant, formattedLiteral (s.text placeholderJoins (literalBraces table)))) =
      some ((ss.map fun s => (s.constant, (s.text joins table).toList)).reverse ++ constants) := by
  induction ss generalizing constants with
  | nil => rfl
  | cons s ss ih =>
    have hb : ∀ name ∈ Source.Literal.fieldNames (s.parts table), (constants.lookup (String.ofList name)).isSome := by
      intro name hn
      obtain ⟨j, rfl⟩ := fieldNames_parts hn
      simp [String.ofList_toList, h j]
    have hv : Literal.value? constants (formattedLiteral (s.text placeholderJoins (literalBraces table))) =
        some (s.text joins table).toList := by
      simp only [Literal.value?, formattedLiteral, Bool.false_eq_true, if_false, if_true]
      rw [Statement.escape_interpolated, formattedValue_written (s.arePlain_parts table) hb,
        Statement.meant_parts h]
    have hne : ∀ j : Join, (j.constant == s.constant) = false := by intro j; cases j <;> cases s <;> decide
    have ih := ih ((s.constant, (s.text joins table).toList) :: constants) fun j => by
      rw [List.lookup_cons, hne j]; exact h j
    simp [evaluate, hv, ih]

theorem lookup_joins (joins : Joins) (constants : List (String × List Char)) (j : Join) :
    ((Join.all.map fun j => (j.constant, (joins.get j).toList)).reverse ++ constants).lookup j.constant =
      some (joins.get j).toList := by
  have hd : ∀ i j : Join, (i.constant == j.constant) = decide (i = j) := by
    intro i j; cases i <;> cases j <;> decide
  cases j <;> simp [Join.all, List.lookup_cons, hd]

theorem constants_of_build {typeName : String} {fields : List String} {a : Artifacts}
    (h : Artifacts.build typeName fields table = .ok a) :
    a.constants = Join.all.map (fun j => (j.constant, j.text fields)) ++
      Statement.all.map fun s => (s.constant, s.text (Joins.of fields) table) := by
  rw [Artifacts.build] at h
  split at h
  · cases h
  · cases h; rfl

theorem evaluate_mixin (h : StaysOnLine settings e table) :
    evaluate [] (assignments (mixin settings e table)) =
      some ((Join.all.map fun j => (j.constant, (j.text e.fields).toList)) ++
        Statement.all.map fun s => (s.constant, (s.text (Joins.of e.fields) table).toList)).reverse := by
  have hl := lookup_joins (Joins.of e.fields) []
  simp only [Joins.get_of] at hl
  rw [assignments_mixin h, evaluate_append, evaluate_plain, Option.bind_some,
    evaluate_statements (Joins.of e.fields) table _ _ (by simpa [Joins.get_of] using hl)]
  simp

/-- A fragment has twelve assignments in the order of the constants, five of quoted texts and seven
  of formatted literals, and evaluating them from top to bottom binds each constant to its SQL. -/
theorem render_constants (hl : settings.language = .python) (hf : e.fields ≠ []) (ht : e.table = some table)
    (hne : table ≠ "") (h : StaysOnLine settings e table) :
    ∃ text a, render settings e = .ok (some text) ∧ Artifacts.build e.typeName e.fields table = .ok a ∧
      '\x00' ∉ text.toList ∧
      (assignments text).length = 12 ∧
      (assignments text).map (·.1) = a.constants.map (·.1) ∧
      (assignments text).map (fun (_, l) => (l.isBytes, l.isRaw, l.isFormatted)) =
        List.replicate 5 (false, false, false) ++ List.replicate 7 (false, false, true) ∧
      evaluate [] (assignments text) = some (a.constants.map fun (name, value) => (name, value.toList)).reverse := by
  have hk : knownTable? e = some table := by simp [knownTable?, ht, hne]
  have hr : render settings e = .ok (some (mixin settings e table)) := by simp [render, hf, hl, hk]
  obtain ⟨a, ha⟩ : ∃ a, Artifacts.build e.typeName e.fields table = .ok a := by simp [Artifacts.build, hf]
  have hc := constants_of_build ha
  refine ⟨_, a, hr, ha, ?_, ?_, ?_, ?_, ?_⟩
  · rw [mixin_eq, Text.toList_endLines _ (by simp [mixinText])]
    intro hm
    rcases Text.mem_lineChars hm with hm | ⟨l, hm, hn⟩
    · exact absurd hm (by decide)
    · obtain ⟨s, hs, rfl⟩ := List.mem_map.mp hm
      exact not_mem_of_isOneLine (isOneLine_mixin h s hs) (by simp) hn
  · rw [assignments_mixin h]; rfl
  · rw [assignments_mixin h, hc]
    simp [Function.comp_def]
  · rw [assignments_mixin h]; rfl
  · rw [evaluate_mixin h, hc]
    simp [Function.comp_def]

/-- Quotes, backslashes, braces and what looks like the name of a character stand for themselves. -/
theorem render_constants_quoted :
    let e : Entity := ⟨"It\"em", some "a\"\\N\x7bDASH\x7d\x7b\x7b\\", ["x\\", "\\N\x7bDASH\x7d\"\"\""], [], 1, none, none, none, none⟩
    ∃ text a, render {} e = .ok (some text) ∧
      Artifacts.build e.typeName e.fields "a\"\\N\x7bDASH\x7d\x7b\x7b\\" = .ok a ∧
      '\x00' ∉ text.toList ∧
      (assignments text).length = 12 ∧
      (assignments text).map (·.1) = a.constants.map (·.1) ∧
      (assignments text).map (fun (_, l) => (l.isBytes, l.isRaw, l.isFormatted)) =
        List.replicate 5 (false, false, false) ++ List.replicate 7 (false, false, true) ∧
      evaluate [] (assignments text) = some (a.constants.map fun (name, value) => (name, value.toList)).reverse :=
  render_constants rfl (by decide) rfl (by decide)
    ⟨by decide, by decide, by decide, by decide⟩

end CrudQueries.Fragment
