/-
  CrudQueries.Proofs.Fragment.Members — what a partial class defines its constants as.

  A partial class does not know its table: its statements are interpolated texts over the constants of the joins
  and the type's own `TableName`. Its members are read from the lines between the last braces of the text
  (`lastClass?`), so it does not matter what the namespace looks like; a quoted text is decoded (`quotedText?`) and
  the names in an interpolated one are replaced by the constants that they stand for (`fill`). Evaluated from top to
  bottom over any table, the members give the joins and the statements over that table (`partialClass_constants`),
  whatever the names hold, as long as each of them stays on its line. The text is the same for all tables.
-/

import CrudQueries.Proofs.Fragment.Constants

namespace CrudQueries.Fragment

open Query
open CrudQueries.Text (isNameChar isNameChars lineChars splitOnChar)
open CrudQueries.Text.Quoted (escape escape_cons quote placeholder)

/-! ## Reading a partial class -/

/-- The characters that end a line. -/
def lineEnds : List Char := ['\n', '\r', '\u0085', '\u2028', '\u2029']

/-- A text that no character ends the line of. -/
def hasNoLineEnd (s : String) : Bool := s.toList.all (!lineEnds.contains ·)

/-- The lines of a source. -/
def sourceLines (text : String) : List (List Char) :=
  splitOnChar '\n' (text.toList.map fun c => if lineEnds.contains c then '\n' else c)

/-- What is written up to the closing quote, and what follows that. -/
def quotedText? : List Char → Option (List Char × List Char)
  | [] => none
  | '"' :: rest => some ([], rest)
  | '\\' :: c :: rest =>
    if c = '\\' ∨ c = '"' then (quotedText? rest).map fun (text, rest) => (c :: text, rest) else none
  | ['\\'] => none
  | c :: rest => (quotedText? rest).map fun (text, rest) => (c :: text, rest)

/-- A constant of a class. The names in braces of an interpolated text are not replaced yet. -/
structure Member where
  name : String
  isInterpolated : Bool
  text : List Char
  deriving DecidableEq, Repr

/-- The member that a line declares. -/
def member? (line : List Char) : Option Member := do
  let declared ← line.dropPrefix? "        private const string ".toList
  let value ← (declared.dropWhile isNameChar).dropPrefix? " = ".toList
  let name := String.ofList (declared.takeWhile isNameChar)
  match value with
  | '"' :: body =>
    match quotedText? body with
    | some (text, [';']) => some ⟨name, false, text⟩
    | _ => none
  | '$' :: '"' :: body =>
    match quotedText? body with
    | some (text, [';']) => some ⟨name, true, text⟩
    | _ => none
  | _ => none

/-- The name of the class that a source ends with, and its members. -/
def lastClass? (text : String) : Option (List Char × List Member) := do
  let opening := "    \x7b".toList
  let inside ← (sourceLines text).reverse.dropPrefix? [[], "\x7d".toList, "    \x7d".toList]
  let heading ← (inside.dropWhile (· != opening))[1]?
  let name ← heading.dropPrefix? "    partial class ".toList
  let members ← ((inside.takeWhile (· != opening)).reverse.filter (!·.isEmpty)).mapM member?
  some (name, members)

/-- Interpolated text with each name in braces replaced by the constant of that name, and with doubled braces as single
  ones. `hole` is what has been read of a name, last character first. -/
def fill (constants : List (String × List Char)) (hole : Option (List Char)) : List Char → Option (List Char)
  | [] => if hole.isSome then none else some []
  | c :: rest =>
    match hole with
    | some name =>
      if c = '}' then do
        let value ← constants.lookup (String.ofList name.reverse)
        (fill constants none rest).map (value ++ ·)
      else fill constants (some (c :: name)) rest
    | none =>
      if c = '{' ∨ c = '}' then
        match rest with
        | d :: more =>
          if d = c then (fill constants none more).map (c :: ·)
          else if c = '{' then fill constants (some []) (d :: more)
          else none
        | [] => none
      else (fill constants none rest).map (c :: ·)

/-- What a member stands for where `constants` are defined. -/
def Member.value? (constants : List (String × List Char)) (m : Member) : Option (List Char) :=
  if m.isInterpolated then fill constants none m.text else some m.text

/-- The constants after the members, the last one first; each member sees the constants before it. -/
def evaluateMembers (constants : List (String × List Char)) : List Member → Option (List (String × List Char))
  | [] => some constants
  | m :: ms => do
    let value ← m.value? constants
    evaluateMembers ((m.name, value) :: constants) ms

/-! ## One member -/

theorem quotedText?_escape (cs rest : List Char) : quotedText? (escape cs ++ '"' :: rest) = some (cs, rest) := by
  induction cs with
  | nil => rfl
  | cons c cs ih =>
    rw [escape_cons]
    by_cases hc : c = '\\' ∨ c = '"'
    · rw [if_pos hc]
      show quotedText? ('\\' :: c :: (escape cs ++ '"' :: rest)) = _
      rw [quotedText?, if_pos hc, ih]
      rfl
    · rw [if_neg hc]
      simp only [not_or] at hc
      show quotedText? (c :: (escape cs ++ '"' :: rest)) = _
      simp [quotedText?, hc.1, hc.2, ih]

/-- How a member is declared. -/
def declaration (m : Member) : String :=
  "private const string " ++ m.name ++ (if m.isInterpolated then " = $" else " = ") ++ quote (String.ofList m.text) ++ ";"

/-- The line of a member in its class. -/
def memberLine (m : Member) : String := "        " ++ declaration m

theorem toList_memberLine (m : Member) :
    (memberLine m).toList = "        private const string ".toList ++ (m.name.toList ++ (" = ".toList ++
      ((if m.isInterpolated then ['$'] else []) ++ '"' :: (escape m.text ++ ['"', ';'])))) := by
  unfold memberLine declaration
  cases m.isInterpolated <;> simp [String.toList_append]

theorem member?_memberLine {m : Member} (hn : isNameChars m.name.toList = true) : member? (memberLine m).toList = some m := by
  have hname := (Text.mem_isNameChars hn).2
  have hstop : ∀ rest, (" = ".toList ++ rest).takeWhile isNameChar = [] ∧
      (" = ".toList ++ rest).dropWhile isNameChar = " = ".toList ++ rest := fun rest => ⟨rfl, rfl⟩
  have htext := quotedText?_escape m.text [';']
  rw [toList_memberLine, member?, List.dropPrefix?_append_of_beq _ (beq_self_eq_true _)]
  simp only [Option.bind_eq_bind, Option.bind_some, List.dropWhile_append_of_pos hname, List.takeWhile_append_of_pos hname,
    hstop, List.append_nil, String.ofList_toList]
  rw [List.dropPrefix?_append_of_beq _ (beq_self_eq_true _), Option.bind_some]
  obtain ⟨name, isInterpolated, text⟩ := m
  cases isInterpolated with
  | false => simp [htext]
  | true => simp [htext]

/-! ## Interpolated text -/

variable {constants : List (String × List Char)}

theorem fill_plain {c : Char} (h : ¬ (c = '{' ∨ c = '}')) (rest : List Char) :
    fill constants none (c :: rest) = (fill constants none rest).map (c :: ·) := by
  rw [fill.eq_def]
  exact if_neg h

theorem fill_text {cs : List Char} (ho : '{' ∉ cs) (hc : '}' ∉ cs) (rest : List Char) :
    fill constants none (cs ++ rest) = (fill constants none rest).map (cs ++ ·) := by
  induction cs with
  | nil => simp
  | cons c cs ih =>
    simp only [List.mem_cons, not_or] at ho hc
    have hplain : ¬ (c = '{' ∨ c = '}') := not_or.mpr ⟨Ne.symm ho.1, Ne.symm hc.1⟩
    rw [List.cons_append, fill_plain hplain, ih ho.2 hc.2, Option.map_map]
    rfl

/-- A name is read up to the brace that closes it. -/
theorem fill_name (constants : List (String × List Char)) {name : List Char} (h : '}' ∉ name) (read rest : List Char) :
    fill constants (some read) (name ++ '}' :: rest) =
      (constants.lookup (String.ofList (read.reverse ++ name))).bind fun value =>
        (fill constants none rest).map (value ++ ·) := by
  induction name generalizing read with
  | nil =>
    rw [List.nil_append, fill, if_pos rfl, List.append_nil]
    rfl
  | cons c name ih =>
    simp only [List.mem_cons, not_or] at h
    rw [List.cons_append, fill, if_neg (Ne.symm h.1), ih h.2]
    simp

theorem fill_placeholder {name : String} {value : List Char} (hne : name.toList ≠ []) (ho : '{' ∉ name.toList)
    (hc : '}' ∉ name.toList) (hv : constants.lookup name = some value) (rest : List Char) :
    fill constants none ((placeholder name).toList ++ rest) = (fill constants none rest).map (value ++ ·) := by
  obtain ⟨d, ds, hd⟩ := List.exists_cons_of_ne_nil hne
  have hfirst : d ≠ '{' := by
    rintro rfl
    exact ho (by simp [hd])
  have hname : fill constants (some []) (d :: (ds ++ '}' :: rest)) = (fill constants none rest).map (value ++ ·) := by
    have hread := fill_name constants hc [] rest
    rw [List.reverse_nil, List.nil_append, String.ofList_toList, hv, hd] at hread
    exact hread
  have htext : (placeholder name).toList ++ rest = '{' :: d :: (ds ++ '}' :: rest) := by
    simp [hd]
  rw [htext, fill, if_pos (.inl rfl), if_neg hfirst, if_pos rfl]
  exact hname

/-- The constants of the joins and of the table are defined. -/
structure Defines (joins : Joins) (table : String) (constants : List (String × List Char)) : Prop where
  joins : ∀ j : Join, constants.lookup j.constant = some (joins.get j).toList
  table : constants.lookup tableMember = some table.toList

variable {joins : Joins} {table : String}

/-- With them, what is written over placeholders stands for what is written over the joins and the table. -/
theorem fill_pieces (h : Defines joins table constants) {ps : List Piece} (hps : ∀ w, .fixed w ∈ ps → isInertText w = true) :
    fill constants none (ps.flatMap (Piece.chars placeholderJoins (placeholder tableMember))) =
      some (ps.flatMap (Piece.chars joins table)) := by
  induction ps with
  | nil => rfl
  | cons p ps ih =>
    have hrest := ih fun w hw => hps w (List.mem_cons_of_mem _ hw)
    rw [List.flatMap_cons, List.flatMap_cons]
    cases p with
    | fixed w =>
      have hw := hps w List.mem_cons_self
      have hfixed : '{' ∉ w.toList ∧ '}' ∉ w.toList :=
        ⟨not_mem_of_isInertText hw (by simp), not_mem_of_isInertText hw (by simp)⟩
      show fill constants none (w.toList ++ _) = _
      rw [fill_text hfixed.1 hfixed.2, hrest]
      rfl
    | join j =>
      have hname : j.constant.toList ≠ [] ∧ '{' ∉ j.constant.toList ∧ '}' ∉ j.constant.toList := by
        cases j <;> decide
      show fill constants none ((placeholderJoins.get j).toList ++ _) = _
      rw [get_placeholderJoins, fill_placeholder hname.1 hname.2.1 hname.2.2 (h.joins j), hrest]
      rfl
    | table =>
      have hname : tableMember.toList ≠ [] ∧ '{' ∉ tableMember.toList ∧ '}' ∉ tableMember.toList := by decide
      show fill constants none ((placeholder tableMember).toList ++ _) = _
      rw [fill_placeholder hname.1 hname.2.1 hname.2.2 h.table, hrest]
      rfl

/-! ## The members of a partial class -/

/-- The member of a join. -/
def joinMember (fields : List String) (j : Join) : Member := ⟨j.constant, false, (j.text fields).toList⟩

/-- The member of a statement. -/
def statementMember (s : Statement) : Member :=
  ⟨s.constant, true, (s.text placeholderJoins (placeholder tableMember)).toList⟩

theorem value?_statementMember (h : Defines joins table constants) (s : Statement) :
    (statementMember s).value? constants = some (s.text joins table).toList := by
  show fill constants none (s.text placeholderJoins (placeholder tableMember)).toList = _
  rw [Statement.toList_text, Statement.toList_text, fill_pieces h fun w hw => Statement.fixed_inert hw]

theorem evaluateMembers_append (constants : List (String × List Char)) (ms ns : List Member) :
    evaluateMembers constants (ms ++ ns) = (evaluateMembers constants ms).bind fun constants => evaluateMembers constants ns := by
  induction ms generalizing constants with
  | nil => rfl
  | cons m ms ih =>
    cases hv : m.value? constants with
    | none => simp [evaluateMembers, hv]
    | some value => simp [evaluateMembers, hv, ih]

/-- Joins stand for themselves, whatever is defined already. -/
theorem evaluateMembers_joins (fields : List String) (js : List Join) (constants : List (String × List Char)) :
    evaluateMembers constants (js.map (joinMember fields)) =
      some ((js.map fun j => (j.constant, (j.text fields).toList)).reverse ++ constants) := by
  induction js generalizing constants with
  | nil => rfl
  | cons j js ih =>
    have hv : (joinMember fields j).value? constants = some (j.text fields).toList := rfl
    rw [List.map_cons, evaluateMembers, hv]
    simp [ih, joinMember]

/-- The constant of a statement hides neither a join nor the table. -/
theorem Defines.cons (h : Defines joins table constants) (s : Statement) (value : List Char) :
    Defines joins table ((s.constant, value) :: constants) := by
  have hjoin : ∀ j : Join, (j.constant == s.constant) = false := by
    intro j
    cases j <;> cases s <;> decide
  have htable : (tableMember == s.constant) = false := by cases s <;> decide
  constructor
  · intro j
    rw [List.lookup_cons, hjoin]
    exact h.joins j
  · rw [List.lookup_cons, htable]
    exact h.table

/-- Statements stand for themselves where the joins and the table are defined. -/
theorem evaluateMembers_statements (h : Defines joins table constants) (ss : List Statement) :
    evaluateMembers constants (ss.map statementMember) =
      some ((ss.map fun s => (s.constant, (s.text joins table).toList)).reverse ++ constants) := by
  induction ss generalizing constants with
  | nil => rfl
  | cons s ss ih =>
    have hrest := ih (h.cons s (s.text joins table).toList)
    rw [List.map_cons, evaluateMembers, value?_statementMember h]
    simp only [Option.bind_eq_bind, Option.bind_some]
    show evaluateMembers ((s.constant, (s.text joins table).toList) :: constants) _ = _
    rw [hrest]
    simp

/-- The members of a type. -/
def classMembers (fields : List String) : List Member :=
  Join.all.map (joinMember fields) ++ Statement.all.map statementMember

theorem defines_joins (fields : List String) (table : String) :
    Defines (Joins.of fields) table
      ((Join.all.map fun j => (j.constant, (j.text fields).toList)).reverse ++ [(tableMember, table.toList)]) := by
  have hlookup := lookup_joins (Joins.of fields) [(tableMember, table.toList)]
  simp only [Joins.get_of] at hlookup
  constructor
  · intro j
    rw [Joins.get_of]
    exact hlookup j
  · have hother : ∀ j : Join, (tableMember == j.constant) = false := by
      intro j
      cases j <;> decide
    simp [Join.all, List.lookup_cons, hother]

/-- Over a table, the members are the constants of that table. -/
theorem evaluateMembers_classMembers {typeName : String} {fields : List String} {a : Artifacts}
    (ha : Artifacts.build typeName fields table = .ok a) :
    evaluateMembers [(tableMember, table.toList)] (classMembers fields) =
      some ((a.constants.map fun (name, value) => (name, value.toList)).reverse ++ [(tableMember, table.toList)]) := by
  have hjoins := evaluateMembers_joins fields Join.all [(tableMember, table.toList)]
  have hstatements := evaluateMembers_statements (defines_joins fields table) Statement.all
  rw [classMembers, evaluateMembers_append, hjoins, Option.bind_some, hstatements, constants_of_build ha]
  simp [Function.comp_def]

/-! ## The lines of a partial class -/

theorem hasNoLineEnd_append {s t : String} : hasNoLineEnd (s ++ t) = (hasNoLineEnd s && hasNoLineEnd t) := by
  rw [hasNoLineEnd, String.toList_append, List.all_append]
  rfl

theorem hasNoLineEnd_iff {s : String} : hasNoLineEnd s = true ↔ ∀ c ∈ s.toList, c ∉ lineEnds := by
  simp [hasNoLineEnd, List.all_eq_true]

theorem hasNoLineEnd_quote {s : String} (h : hasNoLineEnd s = true) : hasNoLineEnd (quote s) = true := by
  rw [hasNoLineEnd_iff] at h ⊢
  intro c hc
  rcases Text.mem_quote hc with hc | rfl | rfl
  · exact h c hc
  · decide
  · decide

theorem hasNoLineEnd_join {fields : List String} (h : ∀ f ∈ fields, hasNoLineEnd f = true) (j : Join) :
    hasNoLineEnd (j.text fields) = true := by
  rw [hasNoLineEnd_iff]
  intro c hc
  rcases mem_join hc with ⟨f, hf, hc⟩ | hc
  · exact hasNoLineEnd_iff.mp (h f hf) c hc
  · have hchars : hasNoLineEnd "@=COALESCE(,)" = true := by decide
    exact hasNoLineEnd_iff.mp hchars c hc

theorem hasNoLineEnd_statement (s : Statement) :
    hasNoLineEnd (s.text placeholderJoins (placeholder tableMember)) = true := by
  have hfixed : ∀ s : Statement, ∀ w ∈ fixedTexts s.pieces, hasNoLineEnd w = true := by
    intro s
    cases s <;> decide_cbv
  rw [hasNoLineEnd, Statement.toList_text, List.all_flatMap, List.all_eq_true]
  intro p hp
  cases p with
  | fixed w => exact hfixed s w (mem_fixedTexts hp)
  | join j =>
    show hasNoLineEnd (placeholderJoins.get j) = true
    rw [get_placeholderJoins]
    cases j <;> decide
  | table =>
    show hasNoLineEnd (placeholder tableMember) = true
    decide

/-- The lines after one are those that were written, if no character ends them early. -/
theorem sourceLines_endLines (heads : List String) (last : String) {lines : List String}
    (h : ∀ l ∈ lines, hasNoLineEnd l = true) :
    ∃ before, sourceLines (Text.endLines (heads ++ last :: lines)) = before ++ lines.map String.toList ++ [[]] := by
  have hlines : ∀ l ∈ lines.map String.toList, ∀ c ∈ l, c ∉ lineEnds := by
    intro l hl
    obtain ⟨s, hs, rfl⟩ := List.mem_map.mp hl
    exact hasNoLineEnd_iff.mp (h s hs)
  have hnewline : ∀ l ∈ lines.map String.toList, '\n' ∉ l := fun l hl hm => hlines l hl _ hm (by decide)
  have hkept : ∀ c ∈ lineChars (lines.map String.toList), (if lineEnds.contains c then '\n' else c) = c := by
    intro c hc
    rcases Text.mem_lineChars hc with rfl | ⟨l, hl, hc⟩
    · rfl
    · rw [if_neg]
      rw [List.contains_iff_mem]
      exact hlines l hl c hc
  have htext : (Text.endLines (heads ++ last :: lines)).toList =
      (lineChars (heads.map String.toList) ++ last.toList) ++ '\n' :: lineChars (lines.map String.toList) := by
    rw [Text.toList_endLines _ (by simp)]
    simp [lineChars]
  have hend : (if lineEnds.contains '\n' then '\n' else '\n') = '\n' := rfl
  rw [sourceLines, htext, List.map_append, List.map_cons, hend, List.map_congr_left hkept, List.map_id',
    Text.splitOnChar_append_cons, Text.splitOnChar_lineChars hnewline]
  exact ⟨_, (List.append_assoc _ _ _).symm⟩

theorem isBlankText_declaration (m : Member) : Text.isBlankText (declaration m) = false := by
  unfold declaration
  simp only [String.append_assoc]
  rw [show "private const string " = "private" ++ " const string " from rfl, String.append_assoc]
  exact indented_word (by decide) _

theorem indentLines_declarations (ms : List Member) :
    Text.indentLines (Text.indentLines (ms.map declaration)) = ms.map memberLine := by
  have honce : ∀ l ∈ ms.map declaration, Text.isBlankText l = false := by
    intro l hl
    obtain ⟨m, -, rfl⟩ := List.mem_map.mp hl
    exact isBlankText_declaration m
  have htwice : ∀ l ∈ (ms.map declaration).map ("    " ++ ·), Text.isBlankText l = false := by
    intro l hl
    obtain ⟨d, hd, rfl⟩ := List.mem_map.mp hl
    have hdeclared := honce d hd
    rw [Text.isBlankText] at hdeclared ⊢
    rw [String.toList_append, List.all_append, hdeclared, Bool.and_false]
  rw [indentLines_words honce, indentLines_words htwice, List.map_map, List.map_map]
  refine List.map_congr_left fun m _ => ?_
  show "    " ++ ("    " ++ declaration m) = _
  rw [← String.append_assoc]
  rfl

/-- The lines of a class of these members, in two groups. -/
def classLines (name : String) (ms ns : List Member) : List String :=
  ("    partial class " ++ name) :: "    \x7b" :: (ms.map memberLine ++ "" :: ns.map memberLine) ++ ["    \x7d", "\x7d"]

theorem declaration_joinMember (fields : List String) (j : Join) : declaration (joinMember fields j) =
    "private const string " ++ j.constant ++ " = " ++ quote (j.text fields) ++ ";" := by
  show "private const string " ++ j.constant ++ " = " ++ quote (String.ofList (j.text fields).toList) ++ ";" = _
  rw [String.ofList_toList]

theorem declaration_statementMember (s : Statement) : declaration (statementMember s) =
    "private const string " ++ s.constant ++ " = $" ++ quote (s.text placeholderJoins (placeholder tableMember)) ++ ";" := by
  show "private const string " ++ s.constant ++ " = $" ++
    quote (String.ofList (s.text placeholderJoins (placeholder tableMember)).toList) ++ ";" = _
  rw [String.ofList_toList]

theorem indentLines_append (lines more : List String) :
    Text.indentLines (lines ++ more) = Text.indentLines lines ++ Text.indentLines more := List.map_append

theorem partialClass_eq (settings : Settings) (e : Entity) :
    partialClass settings e = Text.endLines ([header .csharp, "namespace " ++ settings.namespaceName] ++ "\x7b" ::
      classLines e.typeName (Join.all.map (joinMember e.fields)) (Statement.all.map statementMember)) := by
  have hconstants : (Joins.of e.fields).constants = Join.all.map fun j => (j.constant, j.text e.fields) := by
    simp only [Joins.constants, Joins.get_of]
  have hheading : Text.indentLines ["partial class " ++ e.typeName, "\x7b"] =
      ["    partial class " ++ e.typeName, "    \x7b"] := by
    have hname : Text.isBlankText ("partial class " ++ e.typeName) = false := by
      rw [show "partial class " = "partial" ++ " class " from rfl, String.append_assoc]
      exact indented_word (by decide) _
    have hbrace : Text.isBlankText "\x7b" = false := by decide
    simp [Text.indentLines_eq, hname, hbrace, ← String.append_assoc]
  have hclosing : Text.indentLines ["\x7d"] = ["    \x7d"] := by decide
  have hblank : Text.indentLines [""] = [""] := by decide
  have hjoins := indentLines_declarations (Join.all.map (joinMember e.fields))
  have hstatements := indentLines_declarations (Statement.all.map statementMember)
  rw [List.map_map] at hjoins hstatements
  simp only [Function.comp_def, declaration_joinMember, declaration_statementMember] at hjoins hstatements
  rw [partialClass, hconstants, interpolatedStatements, List.map_map, List.map_map]
  simp only [Function.comp_def, indentLines_append, hheading, hclosing, hblank, hjoins, hstatements]
  simp only [classLines, List.append_assoc, List.cons_append, List.nil_append]

theorem exists_toList_memberLine (m : Member) : ∃ rest, (memberLine m).toList = "        ".toList ++ 'p' :: rest := by
  rw [toList_memberLine]
  exact ⟨_, rfl⟩

theorem mapM_memberLine {ms : List Member} (h : ∀ m ∈ ms, isNameChars m.name.toList = true) :
    (ms.map fun m => (memberLine m).toList).mapM member? = some ms := by
  induction ms with
  | nil => rfl
  | cons m ms ih =>
    have hm := member?_memberLine (h m List.mem_cons_self)
    have hrest := ih fun n hn => h n (List.mem_cons_of_mem _ hn)
    rw [List.map_cons, List.mapM_cons, hm, hrest]
    rfl

theorem hasNoLineEnd_classLines {name : String} (hname : hasNoLineEnd name = true) {ms ns : List Member}
    (h : ∀ m ∈ ms ++ ns, hasNoLineEnd (memberLine m) = true) : ∀ l ∈ classLines name ms ns, hasNoLineEnd l = true := by
  intro l hl
  simp only [classLines, List.mem_append, List.mem_cons, List.mem_map, List.not_mem_nil, or_false] at hl
  rcases hl with (rfl | rfl | ⟨m, hm, rfl⟩ | rfl | ⟨m, hm, rfl⟩) | rfl | rfl
  · rw [hasNoLineEnd_append, hname, Bool.and_true]
    decide
  · decide
  · exact h m (List.mem_append_left _ hm)
  · decide
  · exact h m (List.mem_append_right _ hm)
  · decide
  · decide

/-- No line of a member, nor the empty one between the groups, opens a brace. -/
theorem memberLines_ne_brace (ms ns : List Member) :
    ∀ l ∈ (ms.map memberLine ++ "" :: ns.map memberLine).map String.toList, (l != "    \x7b".toList) = true := by
  have hmember : ∀ m : Member, ((memberLine m).toList != "    \x7b".toList) = true := by
    intro m
    obtain ⟨rest, hrest⟩ := exists_toList_memberLine m
    simp [hrest]
  intro l hl
  rw [List.map_append, List.map_cons, List.map_map, List.map_map, List.mem_append, List.mem_cons] at hl
  rcases hl with hl | rfl | hl
  · obtain ⟨m, -, rfl⟩ := List.mem_map.mp hl
    exact hmember m
  · decide
  · obtain ⟨m, -, rfl⟩ := List.mem_map.mp hl
    exact hmember m

/-- Without the empty lines there are the members. -/
theorem filter_memberLines (ms ns : List Member) :
    ((ms.map memberLine ++ "" :: ns.map memberLine).map String.toList).filter (!·.isEmpty) =
      (ms ++ ns).map fun m => (memberLine m).toList := by
  have hfull : ∀ ks : List Member, (ks.map fun m => (memberLine m).toList).filter (!·.isEmpty) =
      ks.map fun m => (memberLine m).toList := by
    intro ks
    refine List.filter_eq_self.mpr fun l hl => ?_
    obtain ⟨m, -, rfl⟩ := List.mem_map.mp hl
    obtain ⟨rest, hrest⟩ := exists_toList_memberLine m
    simp [hrest]
  rw [List.map_append, List.map_cons, List.map_map, List.map_map, List.filter_append, List.filter_cons_of_neg (by decide)]
  simp only [Function.comp_def]
  rw [hfull, hfull, List.map_append]

/-- The members come back from such lines, and the name of the class. -/
theorem lastClass?_classLines (heads : List String) {name : String} (hname : hasNoLineEnd name = true)
    {ms ns : List Member} (h : ∀ m ∈ ms ++ ns, isNameChars m.name.toList = true ∧ hasNoLineEnd (memberLine m) = true) :
    lastClass? (Text.endLines (heads ++ "\x7b" :: classLines name ms ns)) = some (name.toList, ms ++ ns) := by
  obtain ⟨before, hbefore⟩ :=
    sourceLines_endLines heads "\x7b" (hasNoLineEnd_classLines hname fun m hm => (h m hm).2)
  have hinside := memberLines_ne_brace ms ns
  have hmembers := filter_memberLines ms ns
  generalize hbody : (ms.map memberLine ++ "" :: ns.map memberLine).map String.toList = body at hinside hmembers
  -- Read from the end there are the closing braces, the members, and the line that opens the class.
  have hreverse : (sourceLines (Text.endLines (heads ++ "\x7b" :: classLines name ms ns))).reverse =
      [[], "\x7d".toList, "    \x7d".toList] ++
        (body.reverse ++ "    \x7b".toList :: ("    partial class " ++ name).toList :: before.reverse) := by
    rw [hbefore, ← hbody]
    simp [classLines]
  have hinside' : ∀ l ∈ body.reverse, (l != "    \x7b".toList) = true := fun l hl => hinside l (List.mem_reverse.mp hl)
  have hheading : ("    partial class " ++ name).toList.dropPrefix? "    partial class ".toList = some name.toList := by
    rw [String.toList_append, List.dropPrefix?_append_of_beq _ (beq_self_eq_true _)]
  rw [lastClass?, hreverse, List.dropPrefix?_append_of_beq _ (beq_self_eq_true _)]
  simp only [Option.bind_eq_bind, Option.bind_some, List.dropWhile_append_of_pos hinside',
    List.takeWhile_append_of_pos hinside']
  rw [List.dropWhile_cons_of_neg (by simp), List.takeWhile_cons_of_neg (by simp), List.append_nil, List.reverse_reverse, hmembers,
    mapM_memberLine fun m hm => (h m hm).1]
  rw [List.getElem?_cons_succ, List.getElem?_cons_zero, Option.bind_some, hheading]
  rfl

/-! ## Reading a type's partial class -/

theorem hasNoLineEnd_memberLine {m : Member} (hn : hasNoLineEnd m.name = true) (ht : hasNoLineEnd (String.ofList m.text) = true) :
    hasNoLineEnd (memberLine m) = true := by
  have hassigned : hasNoLineEnd (if m.isInterpolated then " = $" else " = ") = true := by
    split <;> decide
  unfold memberLine declaration
  simp only [hasNoLineEnd_append, hn, hassigned, hasNoLineEnd_quote ht, Bool.and_true]
  decide

theorem classMembers_readable {fields : List String} (h : ∀ f ∈ fields, hasNoLineEnd f = true) :
    ∀ m ∈ classMembers fields, isNameChars m.name.toList = true ∧ hasNoLineEnd (memberLine m) = true := by
  intro m hm
  rcases List.mem_append.mp hm with hm | hm
  · obtain ⟨j, -, rfl⟩ := List.mem_map.mp hm
    refine ⟨(constant_word j).1, hasNoLineEnd_memberLine ?_ ?_⟩
    · show hasNoLineEnd j.constant = true
      cases j <;> decide
    · show hasNoLineEnd (String.ofList (j.text fields).toList) = true
      rw [String.ofList_toList]
      exact hasNoLineEnd_join h j
  · obtain ⟨s, -, rfl⟩ := List.mem_map.mp hm
    refine ⟨(statement_word s).1, hasNoLineEnd_memberLine ?_ ?_⟩
    · show hasNoLineEnd s.constant = true
      cases s <;> decide
    · show hasNoLineEnd (String.ofList (s.text placeholderJoins (placeholder tableMember)).toList) = true
      rw [String.ofList_toList]
      exact hasNoLineEnd_statement s

theorem lastClass?_partialClass {e : Entity} (settings : Settings) (hname : hasNoLineEnd e.typeName = true)
    (hfields : ∀ f ∈ e.fields, hasNoLineEnd f = true) :
    lastClass? (partialClass settings e) = some (e.typeName.toList, classMembers e.fields) := by
  rw [partialClass_eq]
  exact lastClass?_classLines _ hname (classMembers_readable hfields)

/-- A type has the same partial class whatever its own table is. Its members are five quoted and seven interpolated
  texts, and over any table they are the constants of that table, in order. -/
theorem partialClass_constants {settings : Settings} {e : Entity} (hl : settings.language = .csharp) (hf : e.fields ≠ [])
    (hname : hasNoLineEnd e.typeName = true) (hfields : ∀ f ∈ e.fields, hasNoLineEnd f = true) (table : String) :
    ∃ text members a,
      (∀ own, render settings { e with table := own } = .ok (some text)) ∧
      Artifacts.build e.typeName e.fields table = .ok a ∧
      lastClass? text = some (e.typeName.toList, members) ∧
      members.length = 12 ∧
      members.map (·.isInterpolated) = List.replicate 5 false ++ List.replicate 7 true ∧
      evaluateMembers [(tableMember, table.toList)] members =
        some ((a.constants.map fun (name, value) => (name, value.toList)).reverse ++ [(tableMember, table.toList)]) := by
  obtain ⟨a, ha⟩ : ∃ a, Artifacts.build e.typeName e.fields table = .ok a := by simp [Artifacts.build, hf]
  refine ⟨partialClass settings e, classMembers e.fields, a, ?_, ha, lastClass?_partialClass settings hname hfields, rfl, rfl,
    evaluateMembers_classMembers ha⟩
  intro own
  have hrender : render settings { e with table := own } = .ok (some (partialClass settings { e with table := own })) := by
    simp [render, hf, hl]
  rw [hrender]
  rfl

/-- A namespace that looks like the end of a class, and names and a table with quotes, backslashes and braces. -/
theorem partialClass_constants_quoted :
    let settings : Settings := { language := .csharp, namespaceName := "A\n\x7b\n    \x7d\n\x7d" }
    let e : Entity := ⟨"It\"em", none, ["x\\", "\x7bTableName\x7d\"", "\x7b\x7b"], [], 1, none, none, none, none⟩
    ∃ text members a,
      (∀ own, render settings { e with table := own } = .ok (some text)) ∧
      Artifacts.build e.typeName e.fields "a\"\\\x7bCommaSeparated\x7d\n" = .ok a ∧
      lastClass? text = some (e.typeName.toList, members) ∧
      members.length = 12 ∧
      members.map (·.isInterpolated) = List.replicate 5 false ++ List.replicate 7 true ∧
      evaluateMembers [(tableMember, "a\"\\\x7bCommaSeparated\x7d\n".toList)] members =
        some ((a.constants.map fun (name, value) => (name, value.toList)).reverse ++
          [(tableMember, "a\"\\\x7bCommaSeparated\x7d\n".toList)]) :=
  partialClass_constants rfl (by decide) (by decide) (by decide) _

end CrudQueries.Fragment
