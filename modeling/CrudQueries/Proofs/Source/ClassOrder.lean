/-
  CrudQueries.Proofs.Source.ClassOrder — the classes of a source are those that its tokens name.

  A statement has as many classes inside it as there are `class` keywords among its tokens, in the
  same order and with their names and lines, at whatever depth they stand (`step_listsClasses` for
  one level of nesting, `statement_listsClasses` for all). So the classes of a source that is read
  are those its `class` keywords begin, in the order in which these are written (`read?_classes`).
-/

import CrudQueries.Proofs.Source.ClassTokens

namespace CrudQueries.Source

/-- The names and lines of the classes in statements. -/
def headsOf (ss : List Stmt) : List (String × Nat) := (Stmt.classesOf ss).map fun c => (c.name, c.line)

@[simp] theorem headsOf_nil : headsOf [] = [] := rfl

@[simp, grind =] theorem headsOf_append (ss ss' : List Stmt) : headsOf (ss ++ ss') = headsOf ss ++ headsOf ss' := by
  simp [headsOf, classesOf_append]

@[simp, grind =] theorem headsOf_block (ss : List Stmt) : headsOf [.block ss] = headsOf ss := by
  simp [headsOf, Stmt.classesOf, Stmt.classes]

@[simp, grind =] theorem headsOf_classDef (s : String) (line : Nat) (ds : List Expr) (ss : List Stmt) :
    headsOf [.classDef s line ds ss] = (s, line) :: headsOf ss := by
  simp [headsOf, Stmt.classesOf, Stmt.classes]

namespace Statement

/-- The classes in the statements that a rule reads are those of the tokens it takes. -/
abbrev ListsClasses (rule : Statements) : Prop :=
  ∀ ts ss rest, rule ts = some (ss, rest) → classHeads ts = headsOf ss ++ classHeads rest

/-! ## Simple statements -/

section

variable {phrases : Phrases} {ts rest : Tokens} {s : Stmt}

theorem headsOf_assignment {fuel : Nat} {targets : List Expr} (h : assignment phrases fuel targets ts = some (s, rest)) :
    headsOf [s] = [] := by
  induction fuel generalizing targets ts with
  | zero => cases h
  | succ fuel ih =>
    unfold assignment at h
    simp only [Option.bind_eq_bind, Option.bind_eq_some_iff] at h
    obtain ⟨⟨⟨isYield, e⟩, after⟩, -, h⟩ := h
    split at h
    · split at h
      · cases h
      · exact ih h
    · cases h
      rfl

theorem headsOf_expressionOrAssignment (h : expressionOrAssignment phrases ts = some (s, rest)) : headsOf [s] = [] := by
  unfold expressionOrAssignment at h
  simp only [Option.bind_eq_bind, Option.bind_eq_some_iff] at h
  obtain ⟨⟨e, after⟩, -, h⟩ := h
  split at h
  · split at h
    · exact headsOf_assignment h
    · cases h
  split at h
  · simp only [Option.bind_eq_some_iff] at h
    obtain ⟨⟨hint, behind⟩, -, h⟩ := h
    split at h
    · cases h
      rfl
    · obtain ⟨⟨⟨isYield, v⟩, last⟩, -, h⟩ := Option.map_eq_some_iff.mp h
      cases h
      rfl
  split at h
  · split at h
    · obtain ⟨⟨⟨isYield, v⟩, last⟩, -, h⟩ := Option.map_eq_some_iff.mp h
      cases h
      rfl
    · cases h
  · cases h
    rfl

/-- A simple statement has no class inside it. -/
theorem headsOf_simple (h : simple phrases ts = some (s, rest)) : headsOf [s] = [] := by
  unfold simple at h
  split at h
  · split at h
    · obtain ⟨after, -, h⟩ := Option.map_eq_some_iff.mp h
      cases h
      rfl
    split at h
    · obtain ⟨⟨e, after⟩, -, h⟩ := Option.map_eq_some_iff.mp h
      cases h
      rfl
    · exact headsOf_expressionOrAssignment h
  · exact headsOf_expressionOrAssignment h

end

section

variable {phrases : Phrases} {statement : Statements}

theorem simpleLine_listsClasses (hp : ∀ p, (phrases p).TakesNoClass) (fuel : Nat) (read : List Stmt)
    (hr : headsOf read.reverse = []) : ListsClasses (simpleLine phrases fuel read) := by
  induction fuel generalizing read with
  | zero =>
    intro ts ss rest h
    cases h
  | succ fuel ih =>
    intro ts ss rest h
    unfold simpleLine at h
    simp only [Option.bind_eq_bind, Option.bind_eq_some_iff] at h
    obtain ⟨⟨s, after⟩, hs, h⟩ := h
    have hafter := simple_takesNoClass hp _ _ _ hs
    have hread : headsOf (s :: read).reverse = [] := by simp [hr, headsOf_simple hs]
    split at h
    · obtain ⟨behind, hend, h⟩ := Option.map_eq_some_iff.mp h
      cases h
      rw [hread, List.nil_append, classHeads_of_lineEnd hend, hafter]
    case h_2 behind hsemicolon =>
      have hbehind := classHeads_of_symbol hsemicolon
      split at h
      case h_1 hend =>
        cases h
        rw [hread, List.nil_append, classHeads_of_lineEnd hend, hbehind, hafter]
      case h_2 =>
        rw [← ih _ hread _ _ _ h, hbehind, hafter]

/-! ## Blocks -/

theorem classHeads_statements (hs : ListsClasses statement) {fuel : Nat} {read : List (List Stmt)} {ts rest : Tokens}
    {ss : List Stmt} (h : statements statement fuel read ts = some (ss, rest)) :
    headsOf read.reverse.flatten ++ classHeads ts = headsOf ss ++ classHeads rest := by
  fun_induction statements statement fuel read ts with
  | case1 => cases h
  | case2 => cases h; rfl
  | case3 => cases h; rfl
  | case4 fuel read ts _ _ ih =>
    simp only [Option.bind_eq_bind, Option.bind_eq_some_iff] at h
    obtain ⟨⟨first, after⟩, hfirst, h⟩ := h
    rw [← ih _ _ h, hs _ _ _ hfirst]
    simp

theorem classHeads_manyStatements (hs : ListsClasses statement) (fuel : Nat) (read : List (List Stmt)) (ts : Tokens) :
    headsOf (many fuel statement read ts).1.flatten ++ classHeads (many fuel statement read ts).2 =
      headsOf read.reverse.flatten ++ classHeads ts := by
  fun_induction many fuel statement read ts with
  | case1 => rfl
  | case2 => rfl
  | case3 fuel read ts ss rest h ih => simp [ih, hs _ _ _ h]

variable (hp : ∀ p, (phrases p).TakesNoClass) (hs : ListsClasses statement)
include hp hs

theorem block_listsClasses : ListsClasses (block phrases statement) := by
  intro ts ss rest h
  unfold block at h
  split at h
  · simp only [Option.bind_eq_bind, Option.bind_eq_some_iff] at h
    obtain ⟨⟨body, after⟩, hbody, h⟩ := h
    have hbody := classHeads_statements hs hbody
    split at h
    case h_1 hdedent =>
      cases h
      obtain rfl : after = ⟨.dedent, _⟩ :: rest := hdedent
      exact hbody
    case h_2 => cases h
  · exact simpleLine_listsClasses hp _ _ rfl _ _ _ h

theorem suite_listsClasses : ListsClasses (suite phrases statement) := by
  intro ts ss rest h
  obtain ⟨after, hcolon, h⟩ := Option.bind_eq_some_iff.mp h
  rw [← classHeads_of_symbol hcolon]
  exact block_listsClasses hp hs _ _ _ h

theorem optionalSuite_listsClasses {keyword : String} (hk : keyword ≠ "class") :
    ListsClasses (optionalSuite phrases statement keyword) := by
  intro ts ss rest h
  unfold optionalSuite at h
  split at h
  case isTrue hword =>
    rw [← classHeads_of_atWord hword hk]
    exact suite_listsClasses hp hs _ _ _ h
  case isFalse =>
    cases h
    rfl

/-! ## Compound statements -/

theorem conditional_listsClasses (fuel : Nat) : ListsClasses (conditional phrases statement fuel) := by
  induction fuel with
  | zero =>
    intro ts ss rest h
    cases h
  | succ fuel ih =>
    intro ts ss rest h
    unfold conditional at h
    simp only [Option.bind_eq_bind, Option.bind_eq_some_iff] at h
    obtain ⟨⟨e, after⟩, he, ⟨body, behind⟩, hbody, h⟩ := h
    rw [← hp _ _ _ _ he, suite_listsClasses hp hs _ _ _ hbody]
    split at h
    case isTrue helif =>
      obtain ⟨⟨more, last⟩, hmore, h⟩ := Option.bind_eq_some_iff.mp h
      cases h
      rw [← classHeads_of_atWord helif (by decide), ih _ _ _ hmore, headsOf_append, List.append_assoc]
    case isFalse =>
      obtain ⟨⟨more, last⟩, hmore, h⟩ := Option.bind_eq_some_iff.mp h
      cases h
      rw [optionalSuite_listsClasses hp hs (by decide) _ _ _ hmore, headsOf_append, List.append_assoc]

theorem whileLoop_listsClasses : ListsClasses (whileLoop phrases statement) := by
  intro ts ss rest h
  unfold whileLoop at h
  simp only [Option.bind_eq_bind, Option.bind_eq_some_iff] at h
  obtain ⟨⟨e, after⟩, he, ⟨body, behind⟩, hbody, ⟨more, last⟩, hmore, h⟩ := h
  cases h
  rw [← hp _ _ _ _ he, suite_listsClasses hp hs _ _ _ hbody, optionalSuite_listsClasses hp hs (by decide) _ _ _ hmore,
    headsOf_append, List.append_assoc]

theorem forLoop_listsClasses : ListsClasses (forLoop phrases statement) := by
  intro ts ss rest h
  unfold forLoop at h
  simp only [Option.bind_eq_bind, Option.bind_eq_some_iff] at h
  obtain ⟨⟨target, after⟩, htarget, iterable, hin, ⟨e, colon⟩, he, ⟨body, behind⟩, hbody, ⟨more, last⟩, hmore, h⟩ := h
  cases h
  rw [← hp _ _ _ _ htarget, ← classHeads_of_word hin (by decide), ← hp _ _ _ _ he, suite_listsClasses hp hs _ _ _ hbody,
    optionalSuite_listsClasses hp hs (by decide) _ _ _ hmore, headsOf_append, List.append_assoc]

omit hs in
theorem context_takesNoClass : (context phrases).TakesNoClass := by
  intro ts a rest h
  unfold context at h
  simp only [Option.bind_eq_bind, Option.bind_eq_some_iff] at h
  obtain ⟨⟨e, after⟩, he, h⟩ := h
  have hafter := hp _ _ _ _ he
  clear he
  split at h
  case isTrue has =>
    have hword := classHeads_of_atWord has (by decide)
    have hstar : classHeads (after.drop (if atSymbol "*" (after.drop 1) then 2 else 1)) = classHeads after := by
      split
      case isTrue hstar =>
        rw [← hword, ← classHeads_of_atSymbol hstar, List.drop_drop]
      case isFalse => exact hword
    simp only [Option.bind_eq_some_iff] at h
    obtain ⟨⟨target, behind⟩, htarget, h⟩ := h
    have hbehind := hp _ _ _ _ htarget
    grind
  case isFalse =>
    cases h
    exact hafter

omit hs in
theorem contexts_takesNoClass : TakesNoClass (contexts phrases) := by
  have hcontext := context_takesNoClass hp
  intro ts rest h
  unfold contexts at h
  rcases Option.or_eq_some_iff.mp h with h | ⟨-, h⟩
  · grind [- Option.bind_assoc, Option.bind_eq_some_iff, commaList_takesNoClass hcontext]
  · grind [Option.map_eq_some_iff, commaSeparated_takesNoClass hcontext]

theorem withBlock_listsClasses : ListsClasses (withBlock phrases statement) := by
  intro ts ss rest h
  obtain ⟨after, hcontexts, h⟩ := Option.bind_eq_some_iff.mp h
  rw [← contexts_takesNoClass hp _ _ hcontexts]
  exact suite_listsClasses hp hs _ _ _ h

theorem handler_listsClasses (grouped : Bool) : ListsClasses (handler phrases statement grouped) := by
  intro ts ss rest h
  unfold handler at h
  simp only [Option.bind_eq_bind, Option.bind_eq_some_iff] at h
  obtain ⟨start, hexcept, h⟩ := h
  have hsuite : ∃ after, classHeads after = classHeads start ∧ suite phrases statement after = some (ss, rest) := by
    grind [- Option.bind_assoc, Option.bind_eq_some_iff, asName_takesNoClass]
  obtain ⟨after, hafter, hsuite⟩ := hsuite
  rw [← classHeads_of_word hexcept (by decide), ← hafter]
  exact suite_listsClasses hp hs _ _ _ hsuite

theorem tryBlock_listsClasses : ListsClasses (tryBlock phrases statement) := by
  intro ts ss rest h
  unfold tryBlock at h
  simp only [Option.bind_eq_bind, Option.bind_eq_some_iff] at h
  obtain ⟨⟨body, after⟩, hbody, h⟩ := h
  rw [suite_listsClasses hp hs _ _ _ hbody]
  split at h
  · simp only [Option.bind_eq_some_iff] at h
    obtain ⟨⟨first, others⟩, hfirst, ⟨orElse, behind⟩, helse, ⟨atLast, last⟩, hlast, h⟩ := h
    cases h
    have hothers := classHeads_manyStatements (handler_listsClasses hp hs (atSymbol "*" (after.drop 1))) others.length [] others
    rw [handler_listsClasses hp hs _ _ _ _ hfirst]
    simp only [List.reverse_nil, List.flatten_nil, headsOf_nil, List.nil_append] at hothers
    rw [← hothers, optionalSuite_listsClasses hp hs (by decide) _ _ _ helse,
      optionalSuite_listsClasses hp hs (by decide) _ _ _ hlast]
    simp
  · simp only [Option.bind_eq_some_iff] at h
    obtain ⟨behind, hfinally, ⟨atLast, last⟩, hlast, h⟩ := h
    cases h
    rw [← classHeads_of_word hfinally (by decide), suite_listsClasses hp hs _ _ _ hlast, headsOf_append, List.append_assoc]

theorem function_listsClasses : ListsClasses (function phrases statement) := by
  intro ts ss rest h
  unfold function at h
  simp only [Option.bind_eq_bind, Option.bind_eq_some_iff] at h
  obtain ⟨⟨s, after⟩, hname, opened, hopen, params, hparams, closed, hclose, h⟩ := h
  have hsuite : ∃ colon, classHeads colon = classHeads closed ∧ suite phrases statement colon = some (ss, rest) := by
    grind [- Option.bind_assoc, Option.bind_eq_some_iff, Option.map_eq_some_iff]
  obtain ⟨colon, hcolon, hsuite⟩ := hsuite
  rw [← classHeads_of_name hname, ← classHeads_of_symbol hopen, ← Expression.parameters_takesNoClass hp _ _ _ _ hparams,
    ← classHeads_of_symbol hclose, ← hcolon]
  exact suite_listsClasses hp hs _ _ _ hsuite

/-- What follows `class` is the name of the class and what is inside it. -/
theorem classHeads_classBody {line : Nat} {ds : List Expr} {ts rest : Tokens} {s : Stmt}
    (h : classBody phrases statement line ds ts = some (s, rest)) :
    classHeads (⟨.keyword "class", line⟩ :: ts) = headsOf [s] ++ classHeads rest := by
  unfold classBody at h
  obtain ⟨⟨n, after⟩, hname, h⟩ := Option.bind_eq_some_iff.mp h
  have hbody : ∃ colon body, classHeads colon = classHeads after ∧ suite phrases statement colon = some (body, rest) ∧
      s = .classDef n line ds body := by
    grind [- Option.bind_assoc, Option.bind_eq_some_iff, Option.map_eq_some_iff, Expression.arguments_takesNoClass hp]
  obtain ⟨colon, body, hcolon, hbody, rfl⟩ := hbody
  have hts : classHeads ts = headsOf body ++ classHeads rest := by
    rw [← classHeads_of_name hname, ← hcolon, suite_listsClasses hp hs _ _ _ hbody]
  simp [classHeads, hname, hts]

omit hs in
theorem decorator_takesNoClass : (decorator phrases).TakesNoClass := by
  intro ts a rest h
  unfold decorator at h
  grind [- Option.bind_assoc, Option.bind_eq_some_iff]

omit hs in
theorem subject_takesNoClass : TakesNoClass (subject phrases) := by
  intro ts rest h
  unfold subject at h
  grind [- Option.bind_assoc, Option.bind_eq_some_iff, commaList_takesNoClass (Expression.starredOr_takesNoClass hp .named)]

theorem caseBlock_listsClasses (depth : Nat) : ListsClasses (caseBlock depth phrases statement) := by
  intro ts ss rest h
  unfold caseBlock at h
  split at h
  · cases h
  case isFalse hcase =>
    simp only [Option.bind_eq_bind, Option.bind_eq_some_iff] at h
    obtain ⟨after, hpatterns, h⟩ := h
    have hstart : classHeads (ts.drop 1) = classHeads ts := classHeads_of_atName (by simpa using hcase)
    have hafter := casePatterns_takesNoClass depth _ _ hpatterns
    have hsuite : ∃ colon, classHeads colon = classHeads after ∧ suite phrases statement colon = some (ss, rest) := by
      grind [- Option.bind_assoc, Option.bind_eq_some_iff, Option.map_eq_some_iff]
    obtain ⟨colon, hcolon, hsuite⟩ := hsuite
    rw [← hstart, ← hafter, ← hcolon]
    exact suite_listsClasses hp hs _ _ _ hsuite

theorem matchBlock_listsClasses (depth : Nat) : ListsClasses (matchBlock depth phrases statement) := by
  intro ts ss rest h
  unfold matchBlock at h
  split at h
  · cases h
  case isFalse hmatch =>
    simp only [Option.bind_eq_bind, Option.bind_eq_some_iff] at h
    obtain ⟨after, hsubject, behind, hcolon, h⟩ := h
    have hstart : classHeads (ts.drop 1) = classHeads ts := classHeads_of_atName (by simpa using hmatch)
    rw [← hstart, ← subject_takesNoClass hp _ _ hsubject, ← classHeads_of_symbol hcolon]
    split at h
    · obtain ⟨⟨first, others⟩, hfirst, h⟩ := Option.bind_eq_some_iff.mp h
      have hcases := caseBlock_listsClasses hp hs depth
      have hothers := classHeads_manyStatements hcases others.length [] others
      simp only [List.reverse_nil, List.flatten_nil, headsOf_nil, List.nil_append] at hothers
      split at h
      case h_1 hdedent =>
        cases h
        rw [hdedent] at hothers
        rw [headsOf_append, List.append_assoc]
        exact (hcases _ _ _ hfirst).trans (congrArg _ hothers.symm)
      case h_2 => cases h
    · cases h

theorem compound_listsClasses {keyword : String} : ListsClasses (compound phrases statement keyword) := by
  intro ts ss rest h
  unfold compound at h
  split at h
  · exact conditional_listsClasses hp hs _ _ _ _ h
  · exact whileLoop_listsClasses hp hs _ _ _ h
  · exact forLoop_listsClasses hp hs _ _ _ h
  · exact withBlock_listsClasses hp hs _ _ _ h
  · exact tryBlock_listsClasses hp hs _ _ _ h
  · exact function_listsClasses hp hs _ _ _ h
  · split at h
    · split at h
      · rw [classHeads_keyword (by decide)]
        exact function_listsClasses hp hs _ _ _ h
      · rw [classHeads_keyword (by decide)]
        exact withBlock_listsClasses hp hs _ _ _ h
      · rw [classHeads_keyword (by decide)]
        exact forLoop_listsClasses hp hs _ _ _ h
      · cases h
    · cases h
  · cases h

theorem decorated_listsClasses : ListsClasses (decorated phrases statement) := by
  intro ts ss rest h
  unfold decorated at h
  have hdecorators := classHeads_many (decorator_takesNoClass hp) ts.length [] ts
  rw [← hdecorators]
  dsimp only at h
  split at h
  case h_1 hrest =>
    obtain ⟨⟨s, after⟩, hbody, h⟩ := Option.map_eq_some_iff.mp h
    cases h
    exact (congrArg classHeads hrest).trans (classHeads_classBody hp hs hbody)
  case h_2 hrest =>
    obtain ⟨⟨body, after⟩, hbody, h⟩ := Option.map_eq_some_iff.mp h
    cases h
    rw [hrest, classHeads_keyword (by decide), headsOf_block]
    exact function_listsClasses hp hs _ _ _ hbody
  case h_3 hrest =>
    obtain ⟨⟨body, after⟩, hbody, h⟩ := Option.map_eq_some_iff.mp h
    cases h
    rw [hrest, classHeads_keyword (by decide), classHeads_keyword (by decide), headsOf_block]
    exact function_listsClasses hp hs _ _ _ hbody
  case h_4 => cases h

end

/-- If a statement lists its classes, then so does one with such statements inside it. -/
theorem step_listsClasses {statement : Statements} (hs : ListsClasses statement) (depth : Nat) :
    ListsClasses (step depth statement) := by
  have hp := phrase_takesNoClass depth
  intro ts ss rest h
  -- The first token decides: `@`, `class`, the keyword of a compound statement, `match`, or any other.
  unfold step at h
  simp only at h
  split at h
  · exact decorated_listsClasses hp hs _ _ _ h
  · split at h
    case isTrue hclass =>
      obtain rfl := beq_iff_eq.mp hclass
      obtain ⟨⟨s, after⟩, hbody, h⟩ := Option.map_eq_some_iff.mp h
      cases h
      exact classHeads_classBody hp hs hbody
    case isFalse hclass =>
      split at h
      · obtain ⟨⟨body, after⟩, hbody, h⟩ := Option.map_eq_some_iff.mp h
        cases h
        rw [classHeads_keyword (by simpa using hclass), headsOf_block]
        exact compound_listsClasses hp hs _ _ _ hbody
      · exact simpleLine_listsClasses hp _ _ rfl _ _ _ h
  · rcases Option.or_eq_some_iff.mp h with h | ⟨-, h⟩
    · obtain ⟨⟨body, after⟩, hbody, h⟩ := Option.map_eq_some_iff.mp h
      cases h
      rw [headsOf_block]
      exact matchBlock_listsClasses hp hs depth _ _ _ hbody
    · exact simpleLine_listsClasses hp _ _ rfl _ _ _ h
  · exact simpleLine_listsClasses hp _ _ rfl _ _ _ h

end Statement

theorem statement_listsClasses (depth : Nat) : Statement.ListsClasses (statement depth) := by
  induction depth with
  | zero =>
    intro ts ss rest h
    cases h
  | succ depth ih => exact Statement.step_listsClasses ih depth

/-- The classes of a source are those that its `class` keywords begin, in the order in which these are written. -/
theorem read?_classes {source : String} {ss : List Stmt} (h : read? source = some ss) :
    ∃ ts, Lexer.tokens? source.toList = some ts ∧ headsOf ss = classHeads ts := by
  unfold read? at h
  simp only [Option.bind_eq_bind, Option.bind_eq_some_iff] at h
  obtain ⟨ts, hts, h⟩ := h
  refine ⟨ts, hts, ?_⟩
  split at h
  case h_1 hss =>
    cases h
    have hall := Statement.classHeads_statements (statement_listsClasses _) hss
    simpa [classHeads] using hall.symm
  case h_2 => cases h

end CrudQueries.Source
