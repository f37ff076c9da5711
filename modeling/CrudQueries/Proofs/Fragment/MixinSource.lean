/-
  CrudQueries.Proofs.Fragment.MixinSource — a mixin as source.

  A mixin is written line by line (`mixinLines`). Where its texts hold no quotes and backslashes, its
  lines are statements as long as the name of the class is one and each field stays on its line, and
  the class has no decorator (`scan_mixin`).
-/

import CrudQueries.Proofs.Discovery.Unmarked
import CrudQueries.Proofs.Fragment.Constants
import CrudQueries.Proofs.Source.Forms

namespace CrudQueries.Fragment

open Query
open CrudQueries.Source
open CrudQueries.Text (isNameChars not_mem_append)
open CrudQueries.Text.Quoted (escape_eq_self literalBraces)

variable {settings : Settings} {e : Entity} {table : String}

/-! ## The lines -/

/-- The text before the list of names. -/
def titleText (e : Entity) (table : String) : String :=
  "CRUD queries for ``" ++ e.typeName ++ "`` on table ``" ++ table ++ "``."

/-- The text at the head of the class. -/
def summaryText (e : Entity) : String :=
  "Query constants for ``" ++ e.typeName ++ "`` (" ++ ", ".intercalate e.fields ++ ")."

/-- The lines before the list of names. -/
def titleLines (e : Entity) (table : String) : List Line :=
  [.silent (header .python).toList, .written 0 [.long (titleText e table).toList], .silent []]

/-- The lines from the list of names up to the class. -/
def namesLines (settings : Settings) (e : Entity) : List Line := [
  .written 0 [.word "__all__", .gap, .mark .equals, .gap, .mark .openSquare, .quoted (mixinName settings e).toList,
    .mark .closeSquare],
  .silent [],
  .silent []]

/-- The line that binds a join. -/
def joinItems (e : Entity) (j : Join) : List Item :=
  [.word j.constant, .gap, .mark .equals, .gap, .quoted (j.text e.fields).toList]

/-- The line that binds a statement. -/
def statementItems (table : String) (s : Statement) : List Item :=
  [.word s.constant, .gap, .mark .equals, .gap, .formatted (s.text placeholderJoins (literalBraces table)).toList]

/-- The head of the class. -/
def headLines (settings : Settings) (e : Entity) : List Line := [
  .written 0 [.word "class", .gap, .word (mixinName settings e), .mark .colon],
  .written 4 [.long (summaryText e).toList],
  .silent []]

/-- The constants of the class. -/
def bodyLines (e : Entity) (table : String) : List Line :=
  (Join.all.map (joinItems e)).map (.written 4) ++ .silent [] :: (Statement.all.map (statementItems table)).map (.written 4)

def mixinLines (settings : Settings) (e : Entity) (table : String) : List Line :=
  titleLines e table ++ (namesLines settings e ++ (headLines settings e ++ bodyLines e table))

theorem chars_joinItems (e : Entity) : (joinLines e).map (fun l => ("    " ++ l).toList) =
    ((Join.all.map (joinItems e)).map (.written 4)).map Line.chars := by
  simp only [joinLines, List.map_map]
  refine List.map_congr_left fun j _ => ?_
  simp [joinItems, Line.chars, itemChars, Item.chars, Mark.text, String.toList_append, List.replicate]

theorem chars_statementItems (table : String) : (statementLines table).map (fun l => ("    " ++ l).toList) =
    ((Statement.all.map (statementItems table)).map (.written 4)).map Line.chars := by
  simp only [statementLines, List.map_map]
  refine List.map_congr_left fun s _ => ?_
  simp [statementItems, Line.chars, itemChars, Item.chars, Mark.text, String.toList_append, List.replicate]

/-- A mixin is the characters of its lines. -/
theorem mixin_lines (hb : '\\' ∉ (mixinName settings e).toList) (hq : '"' ∉ (mixinName settings e).toList) :
    (mixin settings e table).toList = sourceChars (mixinLines settings e table) := by
  have he := escape_eq_self hb hq
  have hnames : ("__all__ = [\"" ++ mixinName settings e ++ "\"]").toList = itemChars [.word "__all__", .gap, .mark .equals,
      .gap, .mark .openSquare, .quoted (mixinName settings e).toList, .mark .closeSquare] := by
    simp [itemChars, Item.chars, Mark.text, String.toList_append, he]
  have hclass : ("class " ++ mixinName settings e ++ ":").toList =
      itemChars [.word "class", .gap, .word (mixinName settings e), .mark .colon] := by
    simp [itemChars, Item.chars, Mark.text, String.toList_append]
  have htitle : ("\"\"\"CRUD queries for ``" ++ e.typeName ++ "`` on table ``" ++ table ++ "``.\"\"\"").toList =
      (Line.written 0 [.long (titleText e table).toList]).chars := by
    unfold titleText
    simp [Line.chars, itemChars, Item.chars, String.toList_append]
  have hsummary : ("    " ++ summary e).toList = (Line.written 4 [.long (summaryText e).toList]).chars := by
    unfold summary summaryText
    simp [Line.chars, itemChars, Item.chars, String.toList_append, List.replicate]
  rw [mixin_eq, Text.toList_endLines _ (by simp [mixinText])]
  refine congrArg Text.lineChars ?_
  rw [mixinText, List.map_append, List.map_cons, List.map_cons, List.map_cons, List.map_append, List.map_map, List.map_cons,
    List.map_map]
  simp only [Function.comp_def, chars_joinItems, chars_statementItems, hclass, hsummary, mixinHead, List.map_cons, List.map_nil,
    htitle, hnames]
  simp only [mixinLines, titleLines, namesLines, headLines, bodyLines, List.map_append, List.map_cons, List.map_nil]
  rfl

/-! ## The texts -/

/-- A text that stays what it is between quotes. -/
def isQuotable (s : String) : Bool := s.toList.all fun c => !(['"', '\\', '\r'].contains c)

theorem not_mem_of_isQuotable {s : String} {c : Char} (h : isQuotable s = true) (hc : c ∈ ['"', '\\', '\r']) :
    c ∉ s.toList := by
  intro hm
  have := List.all_eq_true.mp h c hm
  rw [List.contains_iff_mem.mpr hc] at this
  cases this

/-- What a mixin needs of its texts beside those that may keep it from being read. -/
structure Quotable (settings : Settings) (e : Entity) (table : String) : Prop where
  typeName : Text.isIdentifier e.typeName = true
  suffix : Text.isNameSuffix settings.mixinSuffix = true
  fields : ∀ f ∈ e.fields, isQuotable f = true
  quotableTable : isQuotable table = true
  tableOnLine : '\n' ∉ table.toList

namespace Quotable

variable {c : Char} (h : Quotable settings e table)

include h

/-- A name and its suffix hold letters, digits, underscores and newlines alone. -/
theorem not_mem_name (hc : Text.isNameChar c = false) (hn : c ≠ '\n') :
    c ∉ e.typeName.toList ∧ c ∉ settings.mixinSuffix.toList := by
  constructor
  · intro hm
    rcases Text.mem_identifier h.typeName hm with h | h
    · rw [h] at hc; cases hc
    · exact hn h
  · intro hm
    rcases Text.mem_suffix h.suffix hm with h | h
    · rw [h] at hc; cases hc
    · exact hn h

theorem not_mem_mixinName (hc : Text.isNameChar c = false) (hn : c ≠ '\n') : c ∉ (mixinName settings e).toList :=
  not_mem_append (h.not_mem_name hc hn).1 (h.not_mem_name hc hn).2

theorem not_mem_typeName (hc : c ∈ ['"', '\\', '\r']) : c ∉ e.typeName.toList := by
  simp only [List.mem_cons, List.not_mem_nil, or_false] at hc
  rcases hc with rfl | rfl | rfl <;> exact (h.not_mem_name (by decide) (by decide)).1

theorem not_mem_title (hc : c ∈ ['"', '\\', '\r']) : c ∉ (titleText e table).toList := by
  have hclosed : ∀ s : String, isQuotable s = true → c ∉ s.toList := fun s hs => not_mem_of_isQuotable hs hc
  unfold titleText
  exact not_mem_append (not_mem_append (not_mem_append (not_mem_append (hclosed _ (by decide))
    (h.not_mem_typeName hc)) (hclosed _ (by decide))) (hclosed _ h.quotableTable)) (hclosed _ (by decide))

theorem not_mem_summary (hc : c ∈ ['"', '\\', '\r']) : c ∉ (summaryText e).toList := by
  have hclosed : ∀ s : String, isQuotable s = true → c ∉ s.toList := fun s hs => not_mem_of_isQuotable hs hc
  have hi : c ∉ (", ".intercalate e.fields).toList := fun hm => by
    rcases Text.mem_intercalate hm with hm | ⟨f, hf, hm⟩
    · exact hclosed ", " (by decide) hm
    · exact hclosed f (h.fields f hf) hm
  unfold summaryText
  exact not_mem_append (not_mem_append (not_mem_append (not_mem_append (hclosed _ (by decide))
    (h.not_mem_typeName hc)) (hclosed _ (by decide))) hi) (hclosed _ (by decide))

theorem not_mem_join (hc : c ∈ ['"', '\\', '\r']) (j : Join) : c ∉ (j.text e.fields).toList := by
  intro hm
  rcases mem_join hm with ⟨f, hf, hm⟩ | hm
  · exact not_mem_of_isQuotable (h.fields f hf) hc hm
  · revert hm
    simp only [List.mem_cons, List.not_mem_nil, or_false] at hc
    rcases hc with rfl | rfl | rfl <;> decide

end Quotable

/-! ## The statements -/

theorem says_title (h : Quotable settings e table) (ls : List Line) :
    SaysLines 30 [] (titleLines e table ++ (namesLines settings e ++ ls)) ls :=
  saysLines_silent <|
  saysLines_line ((saysLine_long (h.not_mem_title (by simp)) (h.not_mem_title (by simp))).mono (by decide)) <|
  saysLines_silent <|
  saysLines_line ((saysLine_list (by decide) (by decide)).mono (by decide)) <|
  saysLines_silent <| saysLines_silent saysLines_done

theorem saysLine_join (e : Entity) (j : Join) : SaysLine 9 (joinItems e j) :=
  saysLine_assign (d := 0) (constant_word j).2 (by cases j <;> decide) rfl fun k _ => joined_quoted (phrase k) _

theorem saysLine_statement (table : String) (s : Query.Statement) : SaysLine 18 (statementItems table s) := by
  refine saysLine_assign (statement_word s).2 (by cases s <;> decide) rfl (e := .other) fun k hk => ?_
  rw [Statement.escape_interpolated]
  refine joined_formatted (s.arePlain_parts table) fun name hn => ?_
  obtain ⟨j, rfl⟩ := fieldNames_parts hn
  exact isField_name (constant_word j).1 (constant_word j).2 hk

theorem says_mixinClass (h : Quotable settings e table) (hk : isKeyword (mixinName settings e) = false) :
    SaysLines 30 [] (headLines settings e ++ bodyLines e table) [] :=
  saysLines_block (saysHead_class hk) (by decide)
    (saysLines_line ((saysLine_long (h.not_mem_summary (by simp)) (h.not_mem_summary (by simp))).mono (by decide)) <|
      saysLines_silent <|
      saysLines_all (fun is hi => by
        obtain ⟨j, -, rfl⟩ := List.mem_map.mp hi
        exact (saysLine_join e j).mono (by decide)) <|
      saysLines_silent <|
      (List.append_nil (List.map (Line.written 4) _)) ▸ saysLines_all (fun is hi => by
        obtain ⟨s, -, rfl⟩ := List.mem_map.mp hi
        exact (saysLine_statement table s).mono (by decide)) saysLines_done)
    (fun _ => rfl) (fun _ => ⟨rfl, rfl⟩) saysLines_done

/-! ## Good lines -/

theorem good_names (hw : isNameChars (mixinName settings e).toList = true) : ∀ l ∈ namesLines settings e, l.Good := by
  have hn : '\n' ∉ (mixinName settings e).toList := fun h => absurd ((Text.mem_isNameChars hw).2 _ h) (by decide)
  simp only [namesLines, List.forall_mem_cons]
  exact ⟨good_list (by decide) hn, by decide⟩

theorem good_title (h : Quotable settings e table) : ∀ l ∈ titleLines e table, l.Good := by
  simp only [titleLines, List.forall_mem_cons]
  exact ⟨by decide, good_long (h.not_mem_title (by simp)) (h.not_mem_title (by simp)), by decide⟩

theorem good_head (h : Quotable settings e table) (hw : isNameChars (mixinName settings e).toList = true) :
    ∀ l ∈ headLines settings e, l.Good := by
  simp only [headLines, List.forall_mem_cons]
  exact ⟨good_class hw, good_long (h.not_mem_summary (by simp)) (h.not_mem_summary (by simp)), by decide⟩

theorem good_body (hf : ∀ f ∈ e.fields, '\n' ∉ f.toList) (ht : '\n' ∉ table.toList) : ∀ l ∈ bodyLines e table, l.Good := by
  have hj : ∀ l ∈ (Join.all.map (joinItems e)).map (Line.written 4), l.Good := by
    simp only [List.forall_mem_map]
    exact fun j _ => good_assign (constant_word j).1 rfl (not_mem_join (by simp) hf j) rfl
  have hs : ∀ l ∈ (Statement.all.map (statementItems table)).map (Line.written 4), l.Good := by
    simp only [List.forall_mem_map]
    exact fun s _ => good_assign (statement_word s).1 rfl (not_mem_statement (by simp) ht s) rfl
  simp only [bodyLines, List.forall_mem_append, List.forall_mem_cons]
  exact ⟨hj, by decide, hs⟩

/-! ## The scan -/

/-- Does the table or a field hold a null character? -/
def holdsNull (e : Entity) (table : String) : Bool :=
  table.toList.contains '\x00' || e.fields.any fun f => f.toList.contains '\x00'

/-- Has the class a name, and does every field stay on its line? -/
def isReadable (settings : Settings) (e : Entity) : Bool :=
  isClassName (mixinName settings e) && e.fields.all fun f => !f.toList.contains '\n'

theorem not_mem_mixin_text {c : Char} (hc : c ∈ ['\n', '\r', '\x00']) (hne : c ≠ '\n')
    (hl : ∀ l ∈ mixinText settings e table, c ∉ l.toList) : c ∉ (mixin settings e table).toList := by
  rw [mixin_eq, Text.toList_endLines _ (by simp [mixinText])]
  intro hm
  rcases Text.mem_lineChars hm with rfl | ⟨l, hl', hm⟩
  · exact hne rfl
  · obtain ⟨s, hs, rfl⟩ := List.mem_map.mp hl'
    exact hl s hs hm

/-- Null characters of the table and the fields come into the text, and no others. -/
theorem null_mem_mixin (h : Quotable settings e table) :
    '\x00' ∈ (mixin settings e table).toList ↔ holdsNull e table = true := by
  have hmem : ∀ l ∈ mixinText settings e table, '\x00' ∈ l.toList → '\x00' ∈ (mixin settings e table).toList := by
    intro l hl hm
    rw [mixin_eq, Text.toList_endLines _ (by simp [mixinText])]
    exact Text.mem_lineChars_of_mem (List.mem_map_of_mem hl) hm
  simp only [holdsNull, Bool.or_eq_true, List.contains_iff_mem, List.any_eq_true]
  constructor
  · intro hm
    by_contra hn
    simp only [not_or, not_exists, not_and] at hn
    refine not_mem_mixin_text (by simp) (by decide) (not_mem_mixin (by simp) ?_ hn.2 hn.1 ?_) hm
    · exact (h.not_mem_name (by decide) (by decide)).1
    · exact (h.not_mem_name (by decide) (by decide)).2
  · rintro (ht | ⟨f, hf, hm⟩)
    · refine hmem _ (List.mem_append_left _ (List.mem_cons_of_mem _ List.mem_cons_self)) ?_
      simp [String.toList_append, ht]
    · refine hmem ("    " ++ summary e) (List.mem_append_right _ (List.mem_cons_of_mem _ List.mem_cons_self)) ?_
      have hi : '\x00' ∈ (", ".intercalate e.fields).toList := Text.mem_intercalate_of_mem hf hm
      unfold summary
      simp only [String.toList_append, List.mem_append, hi, or_true, true_or]

theorem isNameChars_mixinName (h : Quotable settings e table) (hn : '\n' ∉ (mixinName settings e).toList) :
    isNameChars (mixinName settings e).toList = true := by
  rw [mixinName, String.toList_append, List.mem_append, not_or] at hn
  have ht := Text.isNameChars_of_identifier h.typeName hn.1
  have hs : ∀ c ∈ settings.mixinSuffix.toList, Text.isNameChar c = true := by
    intro c hc
    rcases Text.mem_suffix h.suffix hc with h | rfl
    · exact h
    · exact absurd hc hn.2
  rw [mixinName, String.toList_append]
  exact Text.isNameChars_append ht hs

/-- The list of names ends with the quoted name of the class. -/
theorem mixinLines_names : mixinLines settings e table = titleLines e table ++
    .written 0 ([.word "__all__", .gap, .mark .equals, .gap, .mark .openSquare] ++
      .quoted (mixinName settings e).toList :: [.mark .closeSquare]) ::
        ((namesLines settings e).tail ++ (headLines settings e ++ bodyLines e table)) := rfl

/-- The first constant is the quoted list of the fields. -/
theorem mixinLines_columns : mixinLines settings e table = (titleLines e table ++ (namesLines settings e ++
    headLines settings e)) ++ .written 4 ([.word Join.columns.constant, .gap, .mark .equals, .gap] ++
      .quoted (Join.columns.text e.fields).toList :: []) :: (bodyLines e table).tail := rfl

/-- No line of a mixin is ended by a carriage return. -/
theorem return_not_mem_mixin (h : Quotable settings e table) : '\r' ∉ (mixin settings e table).toList := by
  refine not_mem_mixin_text (by simp) (by decide) (not_mem_mixin (by simp) ?_ ?_ ?_ ?_)
  · exact h.not_mem_typeName (by simp)
  · exact fun f hf => not_mem_of_isQuotable (h.fields f hf) (by simp)
  · exact not_mem_of_isQuotable h.quotableTable (by simp)
  · exact (h.not_mem_name (by decide) (by decide)).2

theorem toList_mixin (h : Quotable settings e table) :
    (mixin settings e table).toList = sourceChars (mixinLines settings e table) :=
  mixin_lines (h.not_mem_mixinName (by decide) (by decide)) (h.not_mem_mixinName (by decide) (by decide))

/-- A line feed in the name of the class leaves the list of names without its closing quote. -/
theorem tokens?_mixin_name (h : Quotable settings e table) (hn : '\n' ∈ (mixinName settings e).toList) :
    Lexer.tokens? (mixin settings e table).toList = none := by
  have hr := return_not_mem_mixin h
  rw [toList_mixin h, mixinLines_names] at hr ⊢
  exact tokens?_newline (good_title h) rfl rfl (by decide) (by decide) (by decide)
    (h.not_mem_mixinName (by decide) (by decide)) (h.not_mem_mixinName (by decide) (by decide)) hn hr

theorem good_heading (h : Quotable settings e table) (hw : isNameChars (mixinName settings e).toList = true) :
    ∀ l ∈ titleLines e table ++ (namesLines settings e ++ headLines settings e), l.Good := by
  simp only [List.forall_mem_append]
  exact ⟨good_title h, good_names hw, good_head h hw⟩

/-- A line feed in a field leaves the first constant without its closing quote. -/
theorem tokens?_mixin_field (h : Quotable settings e table) (hw : isNameChars (mixinName settings e).toList = true)
    {f : String} (hf : f ∈ e.fields) (hm : '\n' ∈ f.toList) :
    Lexer.tokens? (mixin settings e table).toList = none := by
  have hcolumns : '\n' ∈ (Join.columns.text e.fields).toList :=
    Text.mem_intercalate_of_mem (List.mem_map_of_mem hf) (by simpa [Join.segment] using hm)
  have hr := return_not_mem_mixin h
  rw [toList_mixin h, mixinLines_columns] at hr ⊢
  exact tokens?_newline (good_heading h hw) rfl rfl (by decide) (by decide) (by decide)
    (h.not_mem_join (by simp) _) (h.not_mem_join (by simp) _) hcolumns hr

theorem good_mixinLines (h : Quotable settings e table) (hw : isNameChars (mixinName settings e).toList = true)
    (hf : ∀ f ∈ e.fields, '\n' ∉ f.toList) : ∀ l ∈ mixinLines settings e table, l.Good := by
  have hgood := good_heading h hw
  simp only [mixinLines, List.forall_mem_append] at hgood ⊢
  exact ⟨hgood.1, hgood.2.1, hgood.2.2, good_body hf h.tableOnLine⟩

/-- A mixin with a null character is none, and another one is scanned without findings if it is readable, and cannot
  be read otherwise. -/
theorem scan_mixin (h : Quotable settings e table) (marker : String) (origin : Discovery.Origin) :
    Discovery.scan (mixin settings e table) marker origin =
      if holdsNull e table then .error .nullCharacter
      else if isReadable settings e then .ok []
      else .error (.malformed origin.fileName) := by
  by_cases hz : holdsNull e table = true
  · rw [if_pos hz, Discovery.scan_nullCharacter ((null_mem_mixin h).mpr hz)]
  have hnull : '\x00' ∉ (mixin settings e table).toList := fun hm => hz ((null_mem_mixin h).mp hm)
  rw [if_neg hz]
  by_cases hn : '\n' ∈ (mixinName settings e).toList
  · rw [Discovery.scan_malformed hnull (read?_of_tokens (tokens?_mixin_name h hn))]
    simp [isReadable, isClassName, Text.not_isNameChars hn]
  have hw := isNameChars_mixinName h hn
  by_cases hf : ∃ f ∈ e.fields, '\n' ∈ f.toList
  · obtain ⟨f, hf, hm⟩ := hf
    have hread : isReadable settings e = false := by
      simp only [isReadable, Bool.and_eq_false_iff, List.all_eq_false]
      exact Or.inr ⟨f, hf, by simpa using hm⟩
    rw [Discovery.scan_malformed hnull (read?_of_tokens (tokens?_mixin_field h hw hf hm)), hread]
    rfl
  -- Every line ends where it should, so only a keyword for the name of the class can stop the reader.
  have hf' : ∀ f ∈ e.fields, '\n' ∉ f.toList := fun f hm hc => hf ⟨f, hm, hc⟩
  have hall := good_mixinLines h hw hf'
  have hne : mixinLines settings e table ≠ [] := by simp [mixinLines, titleLines]
  have ht := toList_mixin h
  have hr := return_not_mem_mixin h
  cases hk : isKeyword (mixinName settings e) with
  | false =>
    obtain ⟨ss, hs, hbare⟩ := read?_lines ht hall hne hr rfl ((says_title h _).trans (says_mixinClass h hk)) (by decide)
    rw [Discovery.scan_bare hnull hs hbare]
    simpa [isReadable, isClassName, hw, hk] using hf'
  | true =>
    have hnone := read?_lines_none ht hall hne hr rfl (says_title h _) (by decide) (fun _ => rfl) (statement_keyword hk _)
    rw [Discovery.scan_malformed hnull hnone]
    simp [isReadable, isClassName, hk]

end CrudQueries.Fragment
