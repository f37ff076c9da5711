/-
  CrudQueries.Source.Statement — the grammar of statements.

  A statement is read to what is inside it (`Stmt`). `match` and `case` are names that begin a
  statement only where the rest of the line makes them do so. The rules are steps over the
  rule for one statement; `statement` ties them together, and `read?` reads a whole source.
-/

import CrudQueries.Source.Pattern

namespace CrudQueries.Source

namespace Statement

/-- A rule for one statement or for the statements of one line. -/
abbrev Statements := Rule (List Stmt)

/-! ## Simple statements -/

/-- The symbols that combine a target's value with another. -/
def augmented : List String :=
  ["+=", "-=", "*=", "@=", "/=", "%=", "&=", "|=", "^=", "<<=", ">>=", "**=", "//="]

/-- `yield` or expressions. -/
def rightSide (phrases : Phrases) : Rule (Bool × Expr) := fun ts =>
  if atWord "yield" ts then (Expression.yieldExpression phrases ts).map fun (e, rest) => ((true, e), rest)
  else (phrases .list ts).map fun (e, rest) => ((false, e), rest)

/-- The targets and the value of an assignment after its first equals sign; `targets` holds
  those before, last first. -/
def assignment (phrases : Phrases) (fuel : Nat) (targets : List Expr) : Rule Stmt := fun ts =>
  match fuel with
  | 0 => none
  | fuel + 1 => do
    let ((isYield, e), rest) ← rightSide phrases ts
    if atSymbol "=" rest then
      if isYield || !e.isStarTarget then none else assignment phrases fuel (e :: targets) (rest.drop 1)
    else some (.assign targets.reverse e, rest)

/-- Is the expression at the head of the tokens, which has a colon after it, one that may be
  annotated? A target in round brackets may be, but not an attribute or item of such a one. -/
def isAnnotatable (phrases : Phrases) (ts : Tokens) (e : Expr) : Bool :=
  e.isSingleTarget &&
    (!atSymbol "(" ts ||
      match phrases .atom ts with
      | some (inner, rest) => !inner.isSingleTarget || atSymbol ":" rest
      | none => false)

/-- An expression, or an assignment to it. -/
def expressionOrAssignment (phrases : Phrases) : Rule Stmt := fun ts => do
  let (e, rest) ← phrases .list ts
  if atSymbol "=" rest then
    if e.isStarTarget then assignment phrases ts.length [e] (rest.drop 1) else none
  else if atSymbol ":" rest && isAnnotatable phrases ts e then do
    let (_, rest) ← phrases .expression (rest.drop 1)
    match symbol "=" rest with
    | none => some (.annotate e none, rest)
    | some rest => (rightSide phrases rest).map fun ((_, v), rest) => (.annotate e (some v), rest)
  else if atSymbols augmented rest then
    if e.isSingleTarget then
      (rightSide phrases (rest.drop 1)).map fun ((_, v), rest) => (.augment e v, rest)
    else none
  else some (.other, rest)

/-- Names joined by dots. -/
def dottedName : Skip := fun ts => (Pattern.dotted ts).map (·.2)

/-- A new name after `as`, if there is one. -/
def asName (ts : Tokens) : Option Tokens :=
  if atWord "as" ts then (name (ts.drop 1)).map (·.2) else some ts

def importModule : Skip := fun ts => do
  let (_, rest) ← commaSeparated (Skip.rule fun ts => (dottedName ts).bind asName) ts
  some rest

/-- The tokens after the dots at the head, and how many they were. -/
def leadingDots (fuel : Nat) (count : Nat) (ts : Tokens) : Nat × Tokens :=
  match fuel with
  | 0 => (count, ts)
  | fuel + 1 => if atSymbols [".", "..."] ts then leadingDots fuel (count + 1) (ts.drop 1) else (count, ts)

def importNames : Skip := fun ts => do
  let item : Rule Unit := Skip.rule fun ts => (name ts).bind fun (_, rest) => asName rest
  if atSymbol "*" ts then some (ts.drop 1)
  else if atSymbol "(" ts then do
    let (_, rest) ← commaList item (ts.drop 1)
    symbol ")" rest
  else do
    let (_, rest) ← commaSeparated item ts
    some rest

def importFrom : Skip := fun ts => do
  let (dots, rest) := leadingDots ts.length 0 ts
  let rest ← match dottedName rest with
    | some rest => some rest
    | none => if dots > 0 then some rest else none
  let rest ← word "import" rest
  importNames rest

/-- A statement that begins with a keyword and holds no others; what follows the keyword. -/
def keywordStatement (phrases : Phrases) (keyword : String) (ts : Tokens) : Option Tokens :=
  match keyword with
  | "pass" | "break" | "continue" => some ts
  | "return" => some (maybe (phrases .list) ts).2
  | "raise" =>
    match phrases .expression ts with
    | none => some ts
    | some (_, rest) => if atWord "from" rest then (phrases .expression (rest.drop 1)).map (·.2) else some rest
  | "global" | "nonlocal" => (commaSeparated name ts).map (·.2)
  | "del" => do
    let ((items, _), rest) ← commaList (phrases .primary) ts
    if Expr.areDeletable items then some rest else none
  | "assert" => do
    let (_, rest) ← phrases .expression ts
    if atSymbol "," rest then (phrases .expression (rest.drop 1)).map (·.2) else some rest
  | "import" => importModule ts
  | "from" => importFrom ts
  | _ => none

/-- The keywords that begin a statement without others in it. -/
def simpleKeywords : List String :=
  ["pass", "break", "continue", "return", "raise", "global", "nonlocal", "del", "assert", "import", "from"]

def simple (phrases : Phrases) : Rule Stmt := fun ts =>
  match ts with
  | ⟨.keyword s, _⟩ :: rest =>
    if simpleKeywords.contains s then (keywordStatement phrases s rest).map fun rest => (.other, rest)
    else if s == "yield" then (Expression.yieldExpression phrases ts).map fun (_, rest) => (.other, rest)
    else expressionOrAssignment phrases ts
  | _ => expressionOrAssignment phrases ts

/-- Simple statements on one line, up to its end. -/
def simpleLine (phrases : Phrases) (fuel : Nat) (read : List Stmt) : Statements := fun ts =>
  match fuel with
  | 0 => none
  | fuel + 1 => do
    let (s, rest) ← simple phrases ts
    let read := s :: read
    match symbol ";" rest with
    | none => (lineEnd rest).map fun rest => (read.reverse, rest)
    | some rest =>
      match lineEnd rest with
      | some rest => some (read.reverse, rest)
      | none => simpleLine phrases fuel read rest

/-! ## Blocks -/

/-- Statements up to the end of their block, which is not taken. -/
def statements (statement : Statements) (fuel : Nat) (read : List (List Stmt)) (ts : Tokens) :
    Option (List Stmt × Tokens) :=
  match fuel, ts with
  | 0, _ => none
  | _, ⟨.dedent, _⟩ :: _ => some (read.reverse.flatten, ts)
  | _, ⟨.finish, _⟩ :: _ => some (read.reverse.flatten, ts)
  | fuel + 1, ts => do
    let (ss, rest) ← statement ts
    statements statement fuel (ss :: read) rest

/-- An indented block, or the statements of the same line. -/
def block (phrases : Phrases) (statement : Statements) : Statements := fun ts =>
  match ts with
  | ⟨.lineEnd, _⟩ :: ⟨.indent, _⟩ :: rest => do
    let (ss, rest) ← statements statement rest.length [] rest
    match ss, rest with
    | _, ⟨.dedent, _⟩ :: rest => some (ss, rest)
    | _, _ => none
  | _ => simpleLine phrases ts.length [] ts

/-- A colon and a block. -/
def suite (phrases : Phrases) (statement : Statements) : Statements := fun ts => do
  let rest ← symbol ":" ts
  block phrases statement rest

/-- The block after a keyword, if that is there. -/
def optionalSuite (phrases : Phrases) (statement : Statements) (keyword : String) : Statements := fun ts =>
  if atWord keyword ts then suite phrases statement (ts.drop 1) else some ([], ts)

/-! ## Compound statements -/

/-- What follows `if`, with all other branches. -/
def conditional (phrases : Phrases) (statement : Statements) (fuel : Nat) : Statements := fun ts =>
  match fuel with
  | 0 => none
  | fuel + 1 => do
    let (_, rest) ← phrases .named ts
    let (body, rest) ← suite phrases statement rest
    if atWord "elif" rest then do
      let (more, rest) ← conditional phrases statement fuel (rest.drop 1)
      some (body ++ more, rest)
    else do
      let (more, rest) ← optionalSuite phrases statement "else" rest
      some (body ++ more, rest)

/-- What follows `while`. -/
def whileLoop (phrases : Phrases) (statement : Statements) : Statements := fun ts => do
  let (_, rest) ← phrases .named ts
  let (body, rest) ← suite phrases statement rest
  let (more, rest) ← optionalSuite phrases statement "else" rest
  some (body ++ more, rest)

/-- What follows `for`. -/
def forLoop (phrases : Phrases) (statement : Statements) : Statements := fun ts => do
  let (_, rest) ← phrases .targets ts
  let rest ← word "in" rest
  let (_, rest) ← phrases .list rest
  let (body, rest) ← suite phrases statement rest
  let (more, rest) ← optionalSuite phrases statement "else" rest
  some (body ++ more, rest)

/-- A context of a `with`, and the target it is bound to. -/
def context (phrases : Phrases) : Rule Unit := fun ts => do
  let (_, rest) ← phrases .expression ts
  if atWord "as" rest then do
    let starred := atSymbol "*" (rest.drop 1)
    let (e, rest) ← phrases .primary (rest.drop (if starred then 2 else 1))
    if e.isTarget && atSymbols [",", ")", ":"] rest then some ((), rest) else none
  else some ((), rest)

/-- The contexts of a `with`, in round brackets or not, up to the colon. -/
def contexts (phrases : Phrases) (ts : Tokens) : Option Tokens :=
  let bracketed := do
    let rest ← symbol "(" ts
    let (_, rest) ← commaList (context phrases) rest
    let rest ← symbol ")" rest
    if atSymbol ":" rest then some rest else none
  bracketed.or ((commaSeparated (context phrases) ts).map (·.2))

/-- What follows `with`. -/
def withBlock (phrases : Phrases) (statement : Statements) : Statements := fun ts => do
  let rest ← contexts phrases ts
  suite phrases statement rest

/-- A handler of a `try`; `grouped` tells whether handlers are starred. -/
def handler (phrases : Phrases) (statement : Statements) (grouped : Bool) : Statements := fun ts => do
  let rest ← word "except" ts
  let rest ← if grouped then symbol "*" rest else some rest
  let rest ←
    if atSymbol ":" rest && !grouped then some rest
    else do
      let (_, rest) ← phrases .expression rest
      asName rest
  suite phrases statement rest

/-- What follows `try`. -/
def tryBlock (phrases : Phrases) (statement : Statements) : Statements := fun ts => do
  let (body, rest) ← suite phrases statement ts
  if atWord "except" rest then do
    let grouped := atSymbol "*" (rest.drop 1)
    let (first, rest) ← handler phrases statement grouped rest
    let (others, rest) := many rest.length (handler phrases statement grouped) [] rest
    let (orElse, rest) ← optionalSuite phrases statement "else" rest
    let (atLast, rest) ← optionalSuite phrases statement "finally" rest
    some (body ++ first ++ others.flatten ++ orElse ++ atLast, rest)
  else do
    let rest ← word "finally" rest
    let (atLast, rest) ← suite phrases statement rest
    some (body ++ atLast, rest)

/-- What follows `def`. -/
def function (phrases : Phrases) (statement : Statements) : Statements := fun ts => do
  let (_, rest) ← name ts
  let rest ← symbol "(" rest
  let rest ← Expression.parameters phrases true ")" rest
  let rest ← symbol ")" rest
  let rest ← match symbol "->" rest with
    | none => some rest
    | some rest => (phrases .expression rest).map (·.2)
  suite phrases statement rest

/-- What follows `class`, which stands on `line`. -/
def classBody (phrases : Phrases) (statement : Statements) (line : Nat) (decorators : List Expr) :
    Rule Stmt := fun ts => do
  let (s, rest) ← name ts
  let rest ←
    if atSymbol "(" rest then (Expression.arguments phrases false (rest.drop 1)).map (·.2) else some rest
  let (body, rest) ← suite phrases statement rest
  some (.classDef s line decorators body, rest)

/-- The decorators at the head of the tokens. -/
def decorator (phrases : Phrases) : Rule Expr := fun ts => do
  let rest ← symbol "@" ts
  let (e, rest) ← phrases .named rest
  let rest ← lineEnd rest
  some (e, rest)

/-- The subject of a `match`. -/
def subject (phrases : Phrases) : Skip := fun ts => do
  let ((items, ended), rest) ← commaList (Expression.starredOr phrases .named) ts
  if items.length == 1 && !ended && atSymbol "*" ts then none else some rest

/-- One `case` of a `match`. -/
def caseBlock (depth : Nat) (phrases : Phrases) (statement : Statements) : Statements := fun ts => do
  if !atName "case" ts then none
  let rest ← casePatterns depth (ts.drop 1)
  let rest ← if atWord "if" rest then (phrases .named (rest.drop 1)).map (·.2) else some rest
  suite phrases statement rest

/-- A `match` with its cases. -/
def matchBlock (depth : Nat) (phrases : Phrases) (statement : Statements) : Statements := fun ts => do
  if !atName "match" ts then none
  let rest ← subject phrases (ts.drop 1)
  let rest ← symbol ":" rest
  match rest with
  | ⟨.lineEnd, _⟩ :: ⟨.indent, _⟩ :: rest => do
    let (first, rest) ← caseBlock depth phrases statement rest
    let (others, rest) := many rest.length (caseBlock depth phrases statement) [] rest
    match rest with
    | ⟨.dedent, _⟩ :: rest => some (first ++ others.flatten, rest)
    | _ => none
  | _ => none

/-- A compound statement that begins with a keyword; what is inside it. -/
def compound (phrases : Phrases) (statement : Statements) (keyword : String) (ts : Tokens) :
    Option (List Stmt × Tokens) :=
  match keyword with
  | "if" => conditional phrases statement ts.length ts
  | "while" => whileLoop phrases statement ts
  | "for" => forLoop phrases statement ts
  | "with" => withBlock phrases statement ts
  | "try" => tryBlock phrases statement ts
  | "def" => function phrases statement ts
  | "async" =>
    match ts with
    | ⟨.keyword s, _⟩ :: rest =>
      match s with
      | "def" => function phrases statement rest
      | "with" => withBlock phrases statement rest
      | "for" => forLoop phrases statement rest
      | _ => none
    | _ => none
  | _ => none

/-- The keywords that begin a statement with others in it. -/
def compoundKeywords : List String := ["if", "while", "for", "with", "try", "def", "async"]

/-- A decorated class or function. -/
def decorated (phrases : Phrases) (statement : Statements) : Statements := fun ts => do
  let (decorators, rest) := many ts.length (decorator phrases) [] ts
  match rest with
  | ⟨.keyword "class", line⟩ :: rest =>
    (classBody phrases statement line decorators rest).map fun (s, rest) => ([s], rest)
  | ⟨.keyword "def", _⟩ :: rest =>
    (function phrases statement rest).map fun (body, rest) => ([.block body], rest)
  | ⟨.keyword "async", _⟩ :: ⟨.keyword "def", _⟩ :: rest =>
    (function phrases statement rest).map fun (body, rest) => ([.block body], rest)
  | _ => none

/-- One statement, or the simple statements of one line. -/
def step (depth : Nat) (statement : Statements) : Statements := fun ts =>
  let phrases : Phrases := phrase depth
  match ts with
  | ⟨.symbol "@", _⟩ :: _ => decorated phrases statement ts
  | ⟨.keyword s, line⟩ :: rest =>
    if s == "class" then (classBody phrases statement line [] rest).map fun (s, rest) => ([s], rest)
    else if compoundKeywords.contains s then
      (compound phrases statement s rest).map fun (body, rest) => ([.block body], rest)
    else simpleLine phrases ts.length [] ts
  | ⟨.name "match", _⟩ :: _ =>
    ((matchBlock depth phrases statement ts).map fun (body, rest) => ([Stmt.block body], rest)).or
      (simpleLine phrases ts.length [] ts)
  | _ => simpleLine phrases ts.length [] ts

end Statement

/-- One statement that nests no deeper than `depth`. -/
def statement (depth : Nat) (ts : Tokens) : Option (List Stmt × Tokens) :=
  match depth with
  | 0 => none
  | depth + 1 => Statement.step depth (fun ts => statement depth ts) ts

/-- How deep the phrases of a text of `length` characters can nest. -/
def depthFor (length : Nat) : Nat := 10 * length + 20

/-- The statements of a source; nothing if it is not well formed. -/
def read? (source : String) : Option (List Stmt) := do
  let cs := source.toList
  let ts ← Lexer.tokens? cs
  match Statement.statements (statement (depthFor cs.length)) (ts.length + 1) [] ts with
  | some (ss, [⟨.finish, _⟩]) => some ss
  | _ => none

end CrudQueries.Source
