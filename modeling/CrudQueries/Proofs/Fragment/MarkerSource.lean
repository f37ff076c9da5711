/-
  CrudQueries.Proofs.Fragment.MarkerSource — the marker declaration as source.

  The declaration is written line by line (`markerLines`). With a name that is one and no keyword its
  lines are statements, and the one class among them has no decorator. A keyword stops at
  the class, and a name with a newline in it at the list of names before it.
-/

import CrudQueries.Fragment.Marker
import CrudQueries.Proofs.Discovery.Unmarked
import CrudQueries.Proofs.Source.Forms

namespace CrudQueries.Fragment

open CrudQueries.Source
open CrudQueries.Text (isNameChars not_mem_append)
open CrudQueries.Text.Quoted (escape escape_eq_self)

/-! ## The lines -/

/-- What tells that a type is no class. -/
def onlyClasses (marker : String) : List Char := marker.toList ++ " can only decorate classes.".toList

/-- What tells that a class is marked already, with the name of the class in braces. -/
def alreadyApplied (marker : String) : List Char := marker.toList ++ " is already applied to \x7bcls.__qualname__\x7d.".toList

/-- The lines before the list of names. -/
def markerImports : List Line := [
  .silent (header .python).toList,
  .written 0 [.long "Marker decorator requesting CRUD query generation.".toList],
  .silent [],
  .written 0 [.word "from", .gap, .word "typing", .gap, .word "import", .gap, .word "Tuple"],
  .silent []]

/-- The lines from the list of names up to the class. -/
def markerNames (marker : String) : List Line := [
  .written 0 [.word "__all__", .gap, .mark .equals, .gap, .mark .openSquare, .quoted marker.toList, .mark .closeSquare],
  .silent [],
  .written 0 [.word "_MARKER_ATTRIBUTE", .gap, .mark .equals, .gap, .quoted "__query_fields__".toList],
  .silent [],
  .silent []]

/-- The function that keeps the fields. -/
def initLines : List Line := [
  .written 4 [.word "def", .gap, .word "__init__", .mark .openRound, .word "self", .mark .comma, .gap, .mark .star,
    .word "fields", .mark .colon, .gap, .word "str", .mark .closeRound, .gap, .mark .arrow, .gap, .word "None",
    .mark .colon],
  .written 8 [.word "self", .mark .dot, .word "Fields", .mark .colon, .gap, .word "Tuple", .mark .openSquare,
    .word "str", .mark .comma, .gap, .mark .dots, .mark .closeSquare, .gap, .mark .equals, .gap, .word "tuple",
    .mark .openRound, .word "fields", .mark .closeRound]]

/-- The function that marks a class. -/
def callLines (marker : String) : List Line := [
  .written 4 [.word "def", .gap, .word "__call__", .mark .openRound, .word "self", .mark .comma, .gap, .word "cls",
    .mark .closeRound, .mark .colon],
  .written 8 [.word "if", .gap, .word "not", .gap, .word "isinstance", .mark .openRound, .word "cls", .mark .comma, .gap,
    .word "type", .mark .closeRound, .mark .colon],
  .written 12 [.word "raise", .gap, .word "TypeError", .mark .openRound, .quoted (onlyClasses marker), .mark .closeRound],
  .written 8 [.word "if", .gap, .word "_MARKER_ATTRIBUTE", .gap, .word "in", .gap, .word "vars", .mark .openRound,
    .word "cls", .mark .closeRound, .mark .colon],
  .written 12 [.word "raise", .gap, .word "TypeError", .mark .openRound, .formatted (alreadyApplied marker),
    .mark .closeRound],
  .written 8 [.word "setattr", .mark .openRound, .word "cls", .mark .comma, .gap, .word "_MARKER_ATTRIBUTE", .mark .comma,
    .gap, .word "self", .mark .closeRound],
  .written 8 [.word "return", .gap, .word "cls"]]

/-- The class. -/
def markerClass (marker : String) : List Line :=
  .written 0 [.word "class", .gap, .word marker, .mark .colon] ::
  .written 4 [.long "Marks a class for CRUD query generation over ``Fields``.".toList] ::
  .silent [] ::
  .written 4 [.word "__slots__", .gap, .mark .equals, .gap, .mark .openRound, .quoted "Fields".toList, .mark .comma,
    .mark .closeRound] ::
  .silent [] :: (initLines ++ .silent [] :: callLines marker)

def markerLines (marker : String) : List Line := markerImports ++ (markerNames marker ++ markerClass marker)

variable {settings : Settings} {marker : String} {d : Nat}

theorem markerText_lines (hl : settings.language = .python) (hb : '\\' ∉ settings.markerName.toList)
    (hq : '"' ∉ settings.markerName.toList) :
    (markerText settings).toList = sourceChars (markerLines settings.markerName) := by
  have he := escape_eq_self hb hq
  unfold markerText
  rw [hl, Text.toList_endLines _ (by simp)]
  unfold sourceChars
  congr 1
  simp only [decoratorLines, markerLines, markerImports, markerNames, markerClass, initLines, callLines, List.map_cons,
    List.map_nil, List.cons_append, List.nil_append, Line.chars, itemChars, List.flatMap_cons, List.flatMap_nil, Item.chars,
    onlyClasses, alreadyApplied, String.toList_append, Text.Quoted.escape_append, he]
  simp [Mark.text, List.replicate, fieldsMember, escape]

/-! ## The statements -/

/-- A name as an argument. -/
theorem argument_name {s : String} {n k : Nat} {rest : Tokens} (hk : 8 ≤ k) (hr : endsPhrase rest = true)
    (he : atSymbol "=" rest = false) :
    Expression.argument (phrase k) (⟨.name s, n⟩ :: rest) = some (.positional (.name s), rest) := by
  obtain ⟨-, -, -, h, -⟩ := phrase_ends hr
  have ha : assignsNothing (⟨.name s, n⟩ :: rest) := by
    intro s n r hs
    cases hs
    exact ⟨h, he⟩
  exact argument_plain ((name_expression hr).named ha k hk) rfl ha

theorem saysLine_import : SaysLine 1 [.word "from", .gap, .word "typing", .gap, .word "import", .gap, .word "Tuple"] := by
  refine ⟨rfl, fun n rest => ⟨[.other], ?_, bare_one rfl⟩⟩
  have hl : lexemes [.word "from", .gap, .word "typing", .gap, .word "import", .gap, .word "Tuple"] =
    [.keyword "from", .name "typing", .keyword "import", .name "Tuple"] := by decide
  rw [lineTokens, hl]
  exact says_importFrom

theorem saysLine_slots : SaysLine 17 [.word "__slots__", .gap, .mark .equals, .gap, .mark .openRound,
    .quoted "Fields".toList, .mark .comma, .mark .closeRound] := by
  refine ⟨rfl, fun n rest => ⟨[.assign [.name "__slots__"] (.tuple [.text (String.ofList "Fields".toList)])], ?_, bare_one rfl⟩⟩
  have hq : ∀ k, 0 ≤ k → Expression.joinedLiterals (phrase k) [⟨false, false, false, escape "Fields".toList⟩] =
    some (.text (String.ofList "Fields".toList)) := fun k _ => joined_quoted (phrase k) _
  have ha : ∀ (l : Source.Literal) (i : Nat) (ts : Tokens), assignsNothing (⟨.literal l, i⟩ :: ts) := by
    intro l i ts s n r h; cases h
  rw [lineTokens, lexemes_name (show isKeyword "__slots__" = false by decide)]
  simp only [lexemes_gap, lexemes_mark, lexemes_quoted, lexemes_nil, tokensAt_cons, tokensAt_nil, List.cons_append,
    List.nil_append, Mark.text]
  exact says_assign (by omega) (((reads_tuple ((literal_expression hq rfl).named (ha _ _ _)) rfl).primary rfl).toExpression
    rfl rfl) rfl (by decide) (by simp only [List.length_cons]; omega)

theorem saysLine_return : SaysLine 9 [.word "return", .gap, .word "cls"] := by
  refine ⟨rfl, fun n rest => ⟨[.other], ?_, bare_one rfl⟩⟩
  have hl : lexemes [.word "return", .gap, .word "cls"] = [.keyword "return", .name "cls"] := by decide
  rw [lineTokens, hl]
  simp only [tokensAt_cons, tokensAt_nil, List.cons_append, List.nil_append]
  exact says_return (name_expression rfl) rfl (by simp only [List.length_cons]; omega)

theorem saysLine_setattr : SaysLine 17 [.word "setattr", .mark .openRound, .word "cls", .mark .comma, .gap,
    .word "_MARKER_ATTRIBUTE", .mark .comma, .gap, .word "self", .mark .closeRound] := by
  refine ⟨rfl, fun n rest => ⟨[.other], ?_, bare_one rfl⟩⟩
  have hl : lexemes [.word "setattr", .mark .openRound, .word "cls", .mark .comma, .gap, .word "_MARKER_ATTRIBUTE",
      .mark .comma, .gap, .word "self", .mark .closeRound] = [.name "setattr", .symbol "(", .name "cls", .symbol ",",
      .name "_MARKER_ATTRIBUTE", .symbol ",", .name "self", .symbol ")"] := by decide
  rw [lineTokens, hl]
  simp only [tokensAt_cons, tokensAt_nil, List.cons_append, List.nil_append]
  exact says_expression ((reads_call (fun k hk => arguments_positional [.name "_MARKER_ATTRIBUTE", .name "self"] rfl
    (argument_name hk rfl rfl) rfl (.more (argument_name hk rfl rfl) (.more (argument_name hk rfl rfl) (.done rfl)))
    (by simp)) rfl).toExpression rfl rfl) rfl rfl (by simp only [List.length_cons]; omega)

/-- A text as an argument. -/
theorem argument_literal {l : Source.Literal} {e : Expr} {n k : Nat} {rest : Tokens}
    (h : ∀ k, 9 ≤ k → Expression.joinedLiterals (phrase k) [l] = some e) (hk : 17 ≤ k) (hr : endsPhrase rest = true) :
    Expression.argument (phrase k) (⟨.literal l, n⟩ :: rest) = some (.positional e, rest) := by
  have ha : assignsNothing (⟨.literal l, n⟩ :: rest) := by intro s n r hs; cases hs
  exact argument_plain ((literal_expression h hr).named ha k hk) rfl ha

/-- The error of a type with a text that says what is wrong. -/
theorem saysLine_raise {i : Item} {l : Source.Literal} {e : Expr} (hi : ∀ is, lexemes (i :: is) = .literal l :: lexemes is)
    (h : ∀ k, 9 ≤ k → Expression.joinedLiterals (phrase k) [l] = some e) :
    SaysLine 25 [.word "raise", .gap, .word "TypeError", .mark .openRound, i, .mark .closeRound] := by
  refine ⟨rfl, fun n rest => ⟨[.other], ?_, bare_one rfl⟩⟩
  rw [lineTokens, lexemes_keyword (show isKeyword "raise" = true by decide), lexemes_gap,
    lexemes_name (show isKeyword "TypeError" = false by decide), lexemes_mark, hi]
  simp only [lexemes_mark, lexemes_nil, tokensAt_cons, tokensAt_nil, List.cons_append, List.nil_append, Mark.text]
  exact says_raise ((reads_call (fun k hk => arguments_positional [] rfl (argument_literal h hk rfl) rfl (.done rfl)
    (by simp)) rfl).toExpression rfl rfl) (by simp only [List.length_cons]; omega)

theorem saysLine_fields : SaysLine 17 [.word "self", .mark .dot, .word "Fields", .mark .colon, .gap, .word "Tuple",
    .mark .openSquare, .word "str", .mark .comma, .gap, .mark .dots, .mark .closeSquare, .gap, .mark .equals, .gap,
    .word "tuple", .mark .openRound, .word "fields", .mark .closeRound] := by
  refine ⟨rfl, fun n rest => ?_⟩
  have hl : lexemes [.word "self", .mark .dot, .word "Fields", .mark .colon, .gap, .word "Tuple", .mark .openSquare,
      .word "str", .mark .comma, .gap, .mark .dots, .mark .closeSquare, .gap, .mark .equals, .gap, .word "tuple",
      .mark .openRound, .word "fields", .mark .closeRound] = [.name "self", .symbol ".", .name "Fields", .symbol ":",
      .name "Tuple", .symbol "[", .name "str", .symbol ",", .symbol "...", .symbol "]", .symbol "=", .name "tuple",
      .symbol "(", .name "fields", .symbol ")"] := by decide
  have ha : ∀ (i : Nat) (ts : Tokens), assignsNothing (⟨.symbol "...", i⟩ :: ts) := by intro i ts s n r h; cases h
  have hn : ∀ (i j : Nat) (ts : Tokens), assignsNothing (⟨.name "str", i⟩ :: ⟨.symbol ",", j⟩ :: ts) := by
    intro i j ts s n r h
    cases h
    exact ⟨by simp, by simp⟩
  rw [lineTokens, hl]
  simp only [tokensAt_cons, tokensAt_nil, List.cons_append, List.nil_append]
  exact ⟨_, says_annotated (by omega) ((reads_item (fun k hk => commaList_items [.other]
      (slice_plain ((name_expression rfl).named (hn _ _ _) k hk) rfl rfl)
      (.more (slice_plain (((reads_dots.primary rfl).toExpression rfl rfl).named (ha _ _) k hk) rfl rfl) (.done rfl))
      (by simp)) rfl).toExpression rfl rfl)
    ((reads_call (fun k hk => arguments_positional [] rfl (argument_name hk rfl rfl) rfl (.done rfl)
      (by simp)) rfl).toExpression rfl rfl)
    rfl (by decide) (by simp only [List.length_cons]; omega), bare_one rfl⟩

/-! ## Heads -/

theorem bare_block {ss : List Stmt} (h : Bare ss) : Bare [.block ss] := by
  simpa [Bare, Stmt.classesOf, Stmt.classes] using h

/-- The head of the function that keeps the fields. -/
theorem saysHead_init (hd : 7 ≤ d) : SaysHead d [.word "def", .gap, .word "__init__", .mark .openRound, .word "self",
    .mark .comma, .gap, .mark .star, .word "fields", .mark .colon, .gap, .word "str", .mark .closeRound, .gap,
    .mark .arrow, .gap, .word "None", .mark .colon] := by
  refine ⟨rfl, fun n i j ts ss rest hb hs _ _ => ⟨[.block ss], ?_, bare_block hb⟩⟩
  have hl : lexemes [.word "def", .gap, .word "__init__", .mark .openRound, .word "self", .mark .comma, .gap,
      .mark .star, .word "fields", .mark .colon, .gap, .word "str", .mark .closeRound, .gap, .mark .arrow, .gap,
      .word "None", .mark .colon] = [.keyword "def", .name "__init__", .symbol "(", .name "self", .symbol ",",
      .symbol "*", .name "fields", .symbol ":", .name "str", .symbol ")", .symbol "->", .keyword "None",
      .symbol ":"] := by decide
  rw [lineTokens, hl]
  simp only [tokensAt_cons, tokensAt_nil, List.cons_append, List.nil_append]
  exact says_def (fun k hk => parameters_items [.rest] rfl (parameter_name rfl rfl)
      (.more (parameter_star rfl (name_expression rfl k (by omega))) (.done rfl)) (by simp) rfl)
    (fun k hk => afterResult_type ((reads_none.primary rfl).toExpression rfl rfl k (by omega)))
    (by simp only [List.length_cons]; omega) hs

/-- The head of the function that marks a class. -/
theorem saysHead_call : SaysHead d [.word "def", .gap, .word "__call__", .mark .openRound, .word "self", .mark .comma,
    .gap, .word "cls", .mark .closeRound, .mark .colon] := by
  refine ⟨rfl, fun n i j ts ss rest hb hs _ _ => ⟨[.block ss], ?_, bare_block hb⟩⟩
  have hl : lexemes [.word "def", .gap, .word "__call__", .mark .openRound, .word "self", .mark .comma, .gap,
      .word "cls", .mark .closeRound, .mark .colon] = [.keyword "def", .name "__call__", .symbol "(", .name "self",
      .symbol ",", .name "cls", .symbol ")", .symbol ":"] := by decide
  rw [lineTokens, hl]
  simp only [tokensAt_cons, tokensAt_nil, List.cons_append, List.nil_append]
  exact says_def (fun k hk => parameters_items [.plain false] rfl (parameter_name rfl rfl)
      (.more (parameter_name rfl rfl) (.done rfl)) (by simp) rfl)
    (fun _ _ => afterResult_none rfl)
    (by simp only [List.length_cons]; omega) hs

/-- Is the class none? -/
theorem saysHead_noClass (hd : 20 ≤ d) : SaysHead d [.word "if", .gap, .word "not", .gap, .word "isinstance",
    .mark .openRound, .word "cls", .mark .comma, .gap, .word "type", .mark .closeRound, .mark .colon] := by
  refine ⟨rfl, fun n i j ts ss rest hb hs h1 h2 => ⟨[.block ss], ?_, bare_block hb⟩⟩
  have hl : lexemes [.word "if", .gap, .word "not", .gap, .word "isinstance", .mark .openRound, .word "cls",
      .mark .comma, .gap, .word "type", .mark .closeRound, .mark .colon] = [.keyword "if", .keyword "not",
      .name "isinstance", .symbol "(", .name "cls", .symbol ",", .name "type", .symbol ")", .symbol ":"] := by
    decide
  have ha : ∀ (i : Nat) (ts : Tokens), assignsNothing (⟨.keyword "not", i⟩ :: ts) := by intro i ts s n r h; cases h
  rw [lineTokens, hl]
  simp only [tokensAt_cons, tokensAt_nil, List.cons_append, List.nil_append]
  exact says_if (Reads.mono (d := 17) ((reads_not (((((reads_call (fun k hk => arguments_positional [.name "type"] rfl
      (argument_name hk rfl rfl) rfl (.more (argument_name hk rfl rfl) (.done rfl)) (by simp)) rfl).operand rfl rfl).sum
      rfl).inversion rfl rfl))).condition rfl (ha _ _) rfl) (by omega))
    (by simp only [List.length_cons]; omega) hs h1 h2

/-- Is the class marked already? -/
theorem saysHead_marked (hd : 20 ≤ d) : SaysHead d [.word "if", .gap, .word "_MARKER_ATTRIBUTE", .gap, .word "in", .gap,
    .word "vars", .mark .openRound, .word "cls", .mark .closeRound, .mark .colon] := by
  refine ⟨rfl, fun n i j ts ss rest hb hs h1 h2 => ⟨[.block ss], ?_, bare_block hb⟩⟩
  have hl : lexemes [.word "if", .gap, .word "_MARKER_ATTRIBUTE", .gap, .word "in", .gap, .word "vars", .mark .openRound,
      .word "cls", .mark .closeRound, .mark .colon] = [.keyword "if", .name "_MARKER_ATTRIBUTE", .keyword "in",
      .name "vars", .symbol "(", .name "cls", .symbol ")", .symbol ":"] := by decide
  have ha : ∀ (i j : Nat) (ts : Tokens), assignsNothing (⟨.name "_MARKER_ATTRIBUTE", i⟩ :: ⟨.keyword "in", j⟩ :: ts) := by
    intro i j ts s n r h
    cases h
    exact ⟨by simp, by simp⟩
  rw [lineTokens, hl]
  simp only [tokensAt_cons, tokensAt_nil, List.cons_append, List.nil_append]
  exact says_if (Reads.mono (d := 16) ((reads_in ((((reads_name.primary rfl).operand rfl rfl).sum rfl).mono (by omega))
      (((reads_call (fun k hk => arguments_positional [] rfl (argument_name hk rfl rfl) rfl (.done rfl) (by simp))
        rfl).operand rfl rfl).sum rfl) rfl rfl).condition rfl (ha _ _ _) rfl) (by omega))
    (by simp only [List.length_cons]; omega) hs h1 h2

/-! ## The declaration -/

/-- The parts of what tells that a class is marked already. -/
def appliedParts (marker : String) : List Source.Literal.Part :=
  [.text (marker.toList ++ " is already applied to ".toList), .field "cls.__qualname__".toList, .text ".".toList]

theorem saysLine_applied (ho : '{' ∉ marker.toList) (hc : '}' ∉ marker.toList) : SaysLine 25 [.word "raise", .gap,
    .word "TypeError", .mark .openRound, .formatted (alreadyApplied marker), .mark .closeRound] := by
  have hd : Text.Quoted.doubleBraces (marker.toList ++ " is already applied to ".toList) =
      marker.toList ++ " is already applied to ".toList :=
    Text.Quoted.doubleBraces_eq_self (by simp [ho]) (by simp [hc])
  have hw : escape (alreadyApplied marker) = Source.Literal.written (appliedParts marker) := by
    simp only [appliedParts, Source.Literal.written, List.flatMap_cons, List.flatMap_nil, Source.Literal.Part.written, hd]
    simp [alreadyApplied, Text.Quoted.escape_append, escape, Text.Quoted.doubleBraces]
  have hn : ∀ name ∈ Source.Literal.fieldNames (appliedParts marker), name = "cls.__qualname__".toList := by
    intro name hn
    simpa [appliedParts, Source.Literal.fieldNames] using hn
  refine saysLine_raise (fun is => rfl) (e := .other) (fun k hk => ?_)
  rw [hw]
  refine joined_formatted (fun name hm => ?_) (fun name hm => ?_)
  · rw [hn name hm]
    exact ⟨by decide, List.all_eq_true.mp (by decide)⟩
  · rw [hn name hm]
    exact isField_attribute hk

theorem says_call (ho : '{' ∉ marker.toList) (hc : '}' ∉ marker.toList) :
    SaysLines 27 [4] (callLines marker) [] :=
  saysLines_block saysHead_call (by decide)
    (saysLines_block (saysHead_noClass (by decide)) (by decide)
      (saysLines_line (saysLine_raise (fun is => rfl) fun k _ => joined_quoted (phrase k) _) saysLines_done)
      (fun _ => rfl) (fun _ => ⟨rfl, rfl⟩) <|
    saysLines_block (saysHead_marked (by decide)) (by decide)
      (saysLines_line (saysLine_applied ho hc) saysLines_done)
      (fun _ => rfl) (fun _ => ⟨rfl, rfl⟩) <|
    saysLines_line (saysLine_setattr.mono (by decide)) <|
    saysLines_line (saysLine_return.mono (by decide)) saysLines_done)
    (fun _ => rfl) (fun _ => ⟨rfl, rfl⟩) saysLines_done

theorem says_class (hk : isKeyword marker = false) (ho : '{' ∉ marker.toList) (hc : '}' ∉ marker.toList) :
    SaysLines 29 [] (markerClass marker) [] :=
  saysLines_block (saysHead_class hk) (by decide)
    (saysLines_line ((saysLine_long (by decide) (by decide)).mono (by decide)) <| saysLines_silent <|
      saysLines_line (saysLine_slots.mono (by decide)) <| saysLines_silent <|
      saysLines_block (saysHead_init (by decide)) (by decide)
        (saysLines_line (saysLine_fields.mono (by decide)) <| saysLines_silent saysLines_done)
        (fun _ => rfl) (fun _ => ⟨rfl, rfl⟩)
        ((says_call ho hc).mono (by decide)))
    (fun _ => rfl) (fun _ => ⟨rfl, rfl⟩) saysLines_done

theorem says_names (ls : List Line) : SaysLines 29 [] (markerImports ++ (markerNames marker ++ ls)) ls :=
  saysLines_silent <|
  saysLines_line ((saysLine_long (by decide) (by decide)).mono (by decide)) <| saysLines_silent <|
  saysLines_line (saysLine_import.mono (by decide)) <| saysLines_silent <|
  saysLines_line ((saysLine_list (by decide) (by decide)).mono (by decide)) <| saysLines_silent <|
  saysLines_line ((saysLine_assign (d := 0) (by decide) (by decide) rfl fun k _ => joined_quoted (phrase k) _).mono
    (by decide)) <| saysLines_silent <| saysLines_silent saysLines_done

/-! ## The characters -/

theorem good_raise {i : Item} {l : Source.Literal} {m : Nat} (hi : lexemes [i, .mark .closeRound] = [.literal l, .symbol ")"])
    (hg : i.Good) (he : i.endsAt ')' = true) : (Line.written m [.word "raise", .gap, .word "TypeError", .mark .openRound, i,
      .mark .closeRound]).Good := by
  refine ⟨rfl, ?_, ?_, ?_⟩
  · intro j hj
    simp only [List.mem_cons, List.not_mem_nil, or_false] at hj
    rcases hj with rfl | rfl | rfl | rfl | rfl | rfl
    · exact (by decide : isNameChars "raise".toList = true)
    · trivial
    · exact (by decide : isNameChars "TypeError".toList = true)
    · trivial
    · exact hg
    · trivial
  · have he' : i.endsAt ((Item.mark .closeRound).chars.headD '\n') = true := he
    simp only [joints, nextChar, he']
    rfl
  · rw [lexemes_word, lexemes_gap, lexemes_word, lexemes_mark, hi, List.foldlM_cons, nest_word]
    change List.foldlM nest [] _ = _
    rw [List.foldlM_cons, nest_word]
    rfl

theorem good_markerLines (hw : isNameChars marker.toList = true) : ∀ l ∈ markerLines marker, l.Good := by
  have hn : '\n' ∉ marker.toList := fun h => absurd ((Text.mem_isNameChars hw).2 _ h) (by decide)
  have hj : ∀ cs : List Char, '\n' ∉ cs → '\n' ∉ marker.toList ++ cs := by simp [hn]
  have hnames : ∀ l ∈ markerNames marker, l.Good := by
    simp only [markerNames, List.forall_mem_cons]
    exact ⟨good_list (by decide) hn, by decide⟩
  have hcall : ∀ l ∈ callLines marker, l.Good := by
    simp only [callLines, List.forall_mem_cons]
    exact ⟨by decide, by decide, good_raise rfl (hj _ (by decide)) rfl, by decide,
      good_raise rfl (hj _ (by decide)) rfl, by decide⟩
  have hclass : ∀ l ∈ markerClass marker, l.Good := by
    simp only [markerClass, List.forall_mem_cons, List.forall_mem_append]
    exact ⟨good_class hw, by decide, by decide, by decide, by decide, by decide,
      by decide, hcall⟩
  simp only [markerLines, List.forall_mem_append]
  exact ⟨by decide, hnames, hclass⟩

/-- Only what the name holds and what all declarations hold stands in a declaration. -/
theorem not_mem_markerText {c : Char} (hl : settings.language = .python) (hc : c ∈ ['\r', '\x00'])
    (hm : c ∉ settings.markerName.toList) : c ∉ (markerText settings).toList := by
  have hclosed : ∀ s : String, Text.isOneLine s = true → c ∉ s.toList := fun s hs =>
    Text.not_mem_of_isOneLine hs (List.mem_cons_of_mem _ hc)
  have hlines : ∀ s ∈ header .python :: decoratorLines settings.markerName, c ∉ s.toList := by
    intro s hs
    simp only [decoratorLines, List.mem_cons, List.not_mem_nil, or_false] at hs
    rcases hs with rfl | rfl | rfl | rfl | rfl | rfl | rfl | rfl | rfl | rfl | rfl | rfl | rfl | rfl | rfl | rfl | rfl |
      rfl | rfl | rfl | rfl | rfl | rfl | rfl | rfl
    all_goals first
      | exact hclosed _ (by decide)
      | exact not_mem_append (not_mem_append (hclosed _ (by decide)) hm) (hclosed _ (by decide))
      | exact not_mem_append (not_mem_append (not_mem_append (not_mem_append (hclosed _ (by decide)) hm)
          (hclosed _ (by decide))) (hclosed _ (by decide))) (hclosed _ (by decide))
  unfold markerText
  rw [hl, Text.toList_endLines _ (by simp)]
  intro h
  rcases Text.mem_lineChars h with rfl | ⟨l, hl, h⟩
  · exact absurd hc (by decide)
  · obtain ⟨s, hs, rfl⟩ := List.mem_map.mp hl
    exact hlines s hs h

/-- The list of names ends with the quoted name. -/
theorem markerLines_names (marker : String) : markerLines marker = markerImports ++
    .written 0 ([.word "__all__", .gap, .mark .equals, .gap, .mark .openSquare] ++ .quoted marker.toList ::
      [.mark .closeSquare]) :: ((markerNames marker).tail ++ markerClass marker) := rfl

/-! ## The scan -/

/-- A declaration is scanned without findings if its name can be one of a class, and cannot be read otherwise. -/
theorem scan_markerText (hl : settings.language = .python) (hm : Text.isIdentifier settings.markerName = true)
    (origin : Discovery.Origin) : Discovery.scan (markerText settings) settings.markerName origin =
      if isClassName settings.markerName then .ok [] else .error (.malformed origin.fileName) := by
  have hnot : ∀ c : Char, Text.isNameChar c = false → c ≠ '\n' → c ∉ settings.markerName.toList := by
    intro c hc hne hmem
    rcases Text.mem_identifier hm hmem with h | h
    · rw [h] at hc; cases hc
    · exact hne h
  have hb := hnot '\\' (by decide) (by decide)
  have hq := hnot '"' (by decide) (by decide)
  have hr := not_mem_markerText hl (by simp) (hnot '\r' (by decide) (by decide))
  have hz := not_mem_markerText hl (by simp) (hnot '\x00' (by decide) (by decide))
  have ht := markerText_lines hl hb hq
  -- An identifier may end in a newline, which parts the line of the class in two.
  by_cases hn : '\n' ∈ settings.markerName.toList
  · have hw : isClassName settings.markerName = false := by simp [isClassName, Text.not_isNameChars hn]
    have hnone : Lexer.tokens? (markerText settings).toList = none := by
      rw [ht, markerLines_names] at hr ⊢
      exact tokens?_newline (by decide) (by decide) rfl (by decide) (by decide)
        (by decide) hb hq hn hr
    rw [hw, Discovery.scan_malformed hz (read?_of_tokens hnone)]
    rfl
  · have hw := Text.isNameChars_of_identifier hm hn
    have hgood := good_markerLines hw
    have hne : markerLines settings.markerName ≠ [] := by simp [markerLines, markerImports]
    cases hk : isKeyword settings.markerName with
    | false =>
      have hclass := says_class hk (hnot '{' (by decide) (by decide)) (hnot '}' (by decide) (by decide))
      obtain ⟨ss, hs, hbare⟩ := read?_lines ht hgood hne hr rfl ((says_names _).trans hclass) (by decide)
      rw [Discovery.scan_bare hz hs hbare]
      simp [isClassName, hw, hk]
    | true =>
      have hnone := read?_lines_none ht hgood hne hr rfl (says_names _) (by decide) (fun _ => rfl)
        (statement_keyword hk _)
      rw [Discovery.scan_malformed hz hnone]
      simp [isClassName, hk]

end CrudQueries.Fragment
