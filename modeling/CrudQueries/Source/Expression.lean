/-
  CrudQueries.Source.Expression — the grammar of expressions.

  Operators of all levels between comparison and power are read as one flat sequence, and so
  are `and` and `or`: what they mean does not matter here, only what is an expression. The
  rules are steps over each other (`Phrases`); `phrase` ties them together.
-/

import CrudQueries.Source.Lexer
import CrudQueries.Source.Literal
import CrudQueries.Source.Rule

namespace CrudQueries.Source

/-- The phrases of the grammar of expressions that rules refer to. -/
inductive Phrase where
  /-- One or more expressions or starred expressions, with commas. -/
  | list
  /-- An expression or the assignment of one to a name. -/
  | named
  | expression
  /-- An expression without a condition. -/
  | disjunction
  /-- An operand of `and` and `or`. -/
  | inversion
  /-- An operand of a comparison. -/
  | sum
  /-- An operand of an arithmetic operator. -/
  | operand
  /-- An atom with its attributes, items and calls. -/
  | primary
  | atom
  /-- The targets of a loop. -/
  | targets

abbrev Phrases := Phrase → Rule Expr

namespace Expression

/-! ## Operators -/

/-- The operators between the operands of a sum. -/
def arithmetic : List String := ["|", "^", "&", "<<", ">>", "+", "-", "*", "/", "//", "%", "@"]

/-- A chain of operands; one alone stands for itself. -/
def chain (operator : Tokens → Option Tokens) (operand : Rule Expr) : Rule Expr := fun ts => do
  let (first, rest) ← operand ts
  go ts.length first rest
where
  go (fuel : Nat) (e : Expr) (ts : Tokens) : Option (Expr × Tokens) :=
    match fuel, operator ts with
    | _, none => some (e, ts)
    | 0, _ => none
    | fuel + 1, some rest => do
      let (_, rest) ← operand rest
      go fuel .other rest

/-- The tokens after an arithmetic operator. -/
def arithmeticOperator (ts : Tokens) : Option Tokens :=
  if atSymbols arithmetic ts then some (ts.drop 1) else none

/-- The tokens after a comparison. -/
def comparison (ts : Tokens) : Option Tokens :=
  if atSymbols ["==", "!=", "<", "<=", ">", ">="] ts || atWord "in" ts then some (ts.drop 1)
  else if atWord "not" ts && atWord "in" (ts.drop 1) then some (ts.drop 2)
  else if atWord "is" ts then some (if atWord "not" (ts.drop 1) then ts.drop 2 else ts.drop 1)
  else none

/-- The tokens after `and` or `or`. -/
def connective (ts : Tokens) : Option Tokens :=
  if atWord "and" ts || atWord "or" ts then some (ts.drop 1) else none

/-- A sign and its operand, or a primary and its power. -/
def operand (phrases : Phrases) : Rule Expr := fun ts =>
  if atSymbols ["+", "-", "~"] ts then do
    let (_, rest) ← phrases .operand (ts.drop 1)
    some (.other, rest)
  else do
    let awaited := atWord "await" ts
    let (e, rest) ← phrases .primary (if awaited then ts.drop 1 else ts)
    let e := if awaited then .other else e
    match symbol "**" rest with
    | none => some (e, rest)
    | some rest => do
      let (_, rest) ← phrases .operand rest
      some (.other, rest)

def inversion (phrases : Phrases) : Rule Expr := fun ts =>
  if atWord "not" ts then do
    let (_, rest) ← phrases .inversion (ts.drop 1)
    some (.other, rest)
  else chain comparison (phrases .sum) ts

/-! ## Parameters -/

/-- One parameter of a function. -/
inductive Parameter where
  | plain (hasDefault : Bool)
  | slash
  | star
  | rest
  | keywords

/-- The default of a parameter, if it has one. -/
def parameterDefault (phrases : Phrases) (ts : Tokens) : Option (Bool × Tokens) :=
  match symbol "=" ts with
  | none => some (false, ts)
  | some rest => (phrases .expression rest).map fun (_, rest) => (true, rest)

/-- An annotation, if there is one and annotations are allowed. -/
def typeHint (phrases : Phrases) (annotated starred : Bool) (ts : Tokens) : Option Tokens :=
  if !annotated then some ts
  else
    match symbol ":" ts with
    | none => some ts
    | some rest =>
      if starred && atSymbol "*" rest then (phrases .sum (rest.drop 1)).map (·.2)
      else (phrases .expression rest).map (·.2)

def parameter (phrases : Phrases) (annotated : Bool) : Rule Parameter := fun ts =>
  if atSymbol "/" ts then some (.slash, ts.drop 1)
  else if atSymbol "*" ts then
    match name (ts.drop 1) with
    | some (_, rest) => (typeHint phrases annotated true rest).map fun rest => (.rest, rest)
    | none => some (.star, ts.drop 1)
  else if atSymbol "**" ts then do
    let (_, rest) ← name (ts.drop 1)
    let rest ← typeHint phrases annotated false rest
    some (.keywords, rest)
  else do
    let (_, rest) ← name ts
    let rest ← typeHint phrases annotated false rest
    let (hasDefault, rest) ← parameterDefault phrases rest
    some (.plain hasDefault, rest)

/-- How far a list of parameters has come. -/
structure ParameterState where
  count : Nat := 0
  defaulted : Bool := false
  slashed : Bool := false
  starred : Bool := false
  /-- A star alone wants a parameter after it. -/
  wanting : Bool := false
  ended : Bool := false

/-- The state after a parameter; nothing if it may not stand there. -/
def ParameterState.step (s : ParameterState) (p : Parameter) : Option ParameterState :=
  if s.ended then none
  else
    match p with
    | .plain hasDefault =>
      if s.starred then some { s with wanting := false }
      else if s.defaulted && !hasDefault then none
      else some { s with count := s.count + 1, defaulted := hasDefault }
    | .slash => if s.slashed || s.starred || s.count == 0 then none else some { s with slashed := true }
    | .star => if s.starred then none else some { s with starred := true, wanting := true }
    | .rest => if s.starred then none else some { s with starred := true }
    | .keywords => if s.wanting then none else some { s with ended := true }

/-- Are the parameters in order? -/
def parametersFit (ps : List Parameter) : Bool :=
  match ps.foldlM ParameterState.step {} with
  | some s => !s.wanting
  | none => false

/-- The parameters of a function up to the symbol `stop`, which is not taken. -/
def parameters (phrases : Phrases) (annotated : Bool) (stop : String) (ts : Tokens) : Option Tokens :=
  if atSymbol stop ts then some ts
  else do
    let ((ps, _), rest) ← commaList (parameter phrases annotated) ts
    if parametersFit ps && atSymbol stop rest then some rest else none

/-! ## Expressions -/

/-- A starred operand, or what `item` reads. -/
def starredOr (phrases : Phrases) (item : Phrase) : Rule Expr := fun ts =>
  match symbol "*" ts with
  | some rest => (phrases .sum rest).map fun (e, rest) => (.starred e, rest)
  | none => phrases item ts

def expressionList (phrases : Phrases) : Rule Expr := fun ts => do
  let ((items, ended), rest) ← commaList (starredOr phrases .expression) ts
  match items, ended with
  | [e], false => some (e, rest)
  | items, _ => some (.tuple items, rest)

def named (phrases : Phrases) : Rule Expr := fun ts =>
  match name ts with
  | some (_, rest) =>
    if atSymbol ":=" rest then (phrases .expression (rest.drop 1)).map fun (_, rest) => (.other, rest)
    else phrases .expression ts
  | none => phrases .expression ts

def expression (phrases : Phrases) : Rule Expr := fun ts =>
  if atWord "lambda" ts then do
    let rest ← parameters phrases false ":" (ts.drop 1)
    let rest ← symbol ":" rest
    let (_, rest) ← phrases .expression rest
    some (.other, rest)
  else do
    let (e, rest) ← phrases .disjunction ts
    if atWord "if" rest then do
      let (_, rest) ← phrases .disjunction (rest.drop 1)
      let rest ← word "else" rest
      let (_, rest) ← phrases .expression rest
      some (.other, rest)
    else some (e, rest)

/-- `yield` with what it yields. -/
def yieldExpression (phrases : Phrases) : Rule Expr := fun ts => do
  let rest ← word "yield" ts
  if atWord "from" rest then do
    let (_, rest) ← phrases .expression (rest.drop 1)
    some (.other, rest)
  else
    let (_, rest) := maybe (phrases .list) rest
    some (.other, rest)

/-! ## Comprehensions -/

/-- The targets of a loop, with commas. -/
def targets (phrases : Phrases) : Rule Expr := fun ts => do
  let target : Rule Expr := fun ts =>
    match symbol "*" ts with
    | some rest => (phrases .primary rest).bind fun (e, rest) =>
      if e.isTarget then some (.starred e, rest) else none
    | none => (phrases .primary ts).bind fun (e, rest) => if e.isTarget then some (e, rest) else none
  let ((items, ended), rest) ← commaList target ts
  match items, ended with
  | [e], false => some (e, rest)
  | items, _ => some (.tuple items, rest)

/-- Does a comprehension go on here? -/
def atClause (ts : Tokens) : Bool :=
  atWord "for" ts || (atWord "async" ts && atWord "for" (ts.drop 1))

def condition (phrases : Phrases) : Rule Unit := fun ts => do
  let rest ← word "if" ts
  let (_, rest) ← phrases .disjunction rest
  some ((), rest)

/-- One `for` with its conditions. -/
def clause (phrases : Phrases) : Rule Unit := fun ts => do
  let ts := if atWord "async" ts then ts.drop 1 else ts
  let rest ← word "for" ts
  let (_, rest) ← phrases .targets rest
  let rest ← word "in" rest
  let (_, rest) ← phrases .disjunction rest
  some ((), (many rest.length (condition phrases) [] rest).2)

/-- The clauses of a comprehension. -/
def clauses (phrases : Phrases) (ts : Tokens) : Option Tokens := do
  let (_, rest) ← clause phrases ts
  some (many rest.length (clause phrases) [] rest).2

/-! ## Calls and items -/

inductive Argument where
  | positional (e : Expr)
  | starred (e : Expr)
  | keyword
  | keywords

def argument (phrases : Phrases) : Rule Argument := fun ts =>
  if atSymbol "**" ts then (phrases .expression (ts.drop 1)).map fun (_, rest) => (.keywords, rest)
  else if atSymbol "*" ts then
    (phrases .expression (ts.drop 1)).map fun (e, rest) => (.starred (.starred e), rest)
  else
    match name ts with
    | some (_, rest) =>
      if atSymbol "=" rest then (phrases .expression (rest.drop 1)).map fun (_, rest) => (.keyword, rest)
      else (phrases .named ts).map fun (e, rest) => (.positional e, rest)
    | none => (phrases .named ts).map fun (e, rest) => (.positional e, rest)

/-- Are the arguments in order? No positional one comes after one with a name, and no starred
  one after a mapping. -/
def argumentsFit (named mapped : Bool) : List Argument → Bool
  | [] => true
  | .positional _ :: rest => !named && !mapped && argumentsFit named mapped rest
  | .starred _ :: rest => !mapped && argumentsFit named mapped rest
  | .keyword :: rest => argumentsFit true mapped rest
  | .keywords :: rest => argumentsFit named true rest

/-- The value of an argument without a name. -/
def Argument.value? : Argument → Option Expr
  | .positional e | .starred e => some e
  | .keyword | .keywords => none

/-- The arguments of a call after its opening bracket, and whether some have names. A generator
  may be the only argument of a call, but not what a class is derived from. -/
def arguments (phrases : Phrases) (mayGenerate : Bool) : Rule (List Expr × Bool) := fun ts =>
  if atSymbol ")" ts then some (([], false), ts.drop 1)
  else do
    let (first, rest) ← argument phrases ts
    if atClause rest then
      match first, mayGenerate with
      | .positional _, true => do
        let rest ← clauses phrases rest
        let rest ← symbol ")" rest
        some (([.other], false), rest)
      | _, _ => none
    else
      let ((args, _), rest) := afterCommas rest.length (argument phrases) [first] rest
      let rest ← symbol ")" rest
      if argumentsFit false false args then
        let values := args.filterMap (·.value?)
        some ((values, values.length < args.length), rest)
      else none

/-- What stands after the first colon of a slice. -/
def sliceTail (phrases : Phrases) (ts : Tokens) : Option Tokens :=
  let bound (ts : Tokens) : Tokens := (maybe (phrases .expression) ts).2
  let rest := bound ts
  match symbol ":" rest with
  | some rest => some (bound rest)
  | none => some rest

/-- One item of a subscript. -/
def slice (phrases : Phrases) : Rule Expr := fun ts =>
  if atSymbol "*" ts then (phrases .expression (ts.drop 1)).map fun (_, rest) => (.other, rest)
  else if atSymbol ":" ts then (sliceTail phrases (ts.drop 1)).map fun rest => (.other, rest)
  else do
    let isNamed := match name ts with
      | some (_, rest) => atSymbol ":=" rest
      | none => false
    let (_, rest) ← phrases .named ts
    if !isNamed && atSymbol ":" rest then (sliceTail phrases (rest.drop 1)).map fun rest => (.other, rest)
    else some (.other, rest)

/-- The attributes, items and calls after an expression that began on `line`. -/
def trailers (phrases : Phrases) (line fuel : Nat) (e : Expr) (ts : Tokens) : Option (Expr × Tokens) :=
  match fuel with
  | 0 => none
  | fuel + 1 =>
    if atSymbol "." ts then do
      let (s, rest) ← name (ts.drop 1)
      trailers phrases line fuel (.attribute e s) rest
    else if atSymbol "(" ts then do
      let ((args, hasKeywords), rest) ← arguments phrases true (ts.drop 1)
      trailers phrases line fuel (.call line e args hasKeywords) rest
    else if atSymbol "[" ts then do
      let (_, rest) ← commaList (slice phrases) (ts.drop 1)
      let rest ← symbol "]" rest
      trailers phrases line fuel (.item e) rest
    else some (e, ts)

def primary (phrases : Phrases) : Rule Expr := fun ts => do
  let (e, rest) ← phrases .atom ts
  trailers phrases (lineOf ts) (ts.length + 1) e rest

/-! ## Atoms -/

/-- What stands in round brackets, after the opening one. -/
def inParentheses (phrases : Phrases) : Rule Expr := fun ts =>
  if atSymbol ")" ts then some (.tuple [], ts.drop 1)
  else if atWord "yield" ts then do
    let (e, rest) ← yieldExpression phrases ts
    let rest ← symbol ")" rest
    some (e, rest)
  else do
    let isStarred := atSymbol "*" ts
    let (first, rest) ← starredOr phrases .named ts
    if atClause rest && !isStarred then do
      let rest ← clauses phrases rest
      let rest ← symbol ")" rest
      some (.other, rest)
    else
      let ((items, ended), rest) := afterCommas rest.length (starredOr phrases .named) [first] rest
      let rest ← symbol ")" rest
      match items, ended with
      | [e], false => if isStarred then none else some (e, rest)
      | items, _ => some (.tuple items, rest)

/-- What stands in square brackets, after the opening one. -/
def inBrackets (phrases : Phrases) : Rule Expr := fun ts =>
  if atSymbol "]" ts then some (.list [], ts.drop 1)
  else do
    let isStarred := atSymbol "*" ts
    let (first, rest) ← starredOr phrases .named ts
    if atClause rest && !isStarred then do
      let rest ← clauses phrases rest
      let rest ← symbol "]" rest
      some (.other, rest)
    else
      let ((items, _), rest) := afterCommas rest.length (starredOr phrases .named) [first] rest
      let rest ← symbol "]" rest
      some (.list items, rest)

/-- An entry of a dictionary. -/
def entry (phrases : Phrases) : Rule Expr := fun ts =>
  match symbol "**" ts with
  | some rest => phrases .sum rest
  | none => do
    let (_, rest) ← phrases .expression ts
    let rest ← symbol ":" rest
    phrases .expression rest

/-- The rest of a display in braces after its first member, which `member` reads too; a
  comprehension if it may be one. -/
def displayTail (phrases : Phrases) (mayIterate : Bool) (member : Rule Expr) : Rule Expr := fun ts =>
  if atClause ts && mayIterate then do
    let rest ← clauses phrases ts
    let rest ← symbol "\x7d" rest
    some (.other, rest)
  else
    let (_, rest) := afterCommas ts.length member [Expr.other] ts
    (symbol "\x7d" rest).map fun rest => (.other, rest)

/-- What stands in braces, after the opening one: a dictionary, a set or a comprehension. -/
def inBraces (phrases : Phrases) : Rule Expr := fun ts =>
  if atSymbol "\x7d" ts then some (.other, ts.drop 1)
  else if atSymbol "**" ts then do
    let (_, rest) ← entry phrases ts
    displayTail phrases false (entry phrases) rest
  else do
    let isStarred := atSymbol "*" ts
    let isNamed := match name ts with
      | some (_, rest) => atSymbol ":=" rest
      | none => false
    let (_, rest) ← starredOr phrases .named ts
    if atSymbol ":" rest && !isStarred && !isNamed then do
      let (_, rest) ← phrases .expression (rest.drop 1)
      displayTail phrases true (entry phrases) rest
    else displayTail phrases (!isStarred) (starredOr phrases .named) rest

/-- The literals at the head of the tokens, and what follows them. -/
def literals : Tokens → List Literal × Tokens
  | ⟨.literal l, _⟩ :: rest => ((l :: (literals rest).1), (literals rest).2)
  | ts => ([], ts)

/-- Is the text of a field an expression? It is read as if it stood in round brackets. -/
def isField (phrases : Phrases) (body : List Char) : Bool :=
  match Lexer.tokens? ('(' :: body ++ [')']) with
  | some ts =>
    match phrases .atom ts with
    | some (_, [⟨.lineEnd, _⟩, ⟨.finish, _⟩]) => true
    | _ => false
  | none => false

/-- What a literal stands for: bytes and formatted literals are no texts. -/
def literalText (phrases : Phrases) (l : Literal) : Option (Option (List Char)) :=
  if l.isBytes then if Literal.isBytesBody l.isRaw l.body then some none else none
  else if l.isFormatted then do
    let fields ← Literal.fields? l.isRaw l.body
    if fields.all (isField phrases) then some none else none
  else (Literal.decode? l.isRaw l.body).map some

/-- Literals side by side. Bytes do not go with texts; one formatted literal makes the whole
  formatted. -/
def joinedLiterals (phrases : Phrases) (ls : List Literal) : Option Expr := do
  let parts ← ls.mapM (literalText phrases)
  if ls.any (·.isBytes) then if ls.all (·.isBytes) then some .constant else none
  else if ls.any (·.isFormatted) then some .other
  else some (.text (String.ofList (parts.flatMap (·.getD []))))

def atom (phrases : Phrases) : Rule Expr := fun ts =>
  match ts with
  | ⟨.name s, _⟩ :: rest => some (.name s, rest)
  | ⟨.number _, _⟩ :: rest => some (.constant, rest)
  | ⟨.literal _, _⟩ :: _ =>
    let (ls, rest) := literals ts
    (joinedLiterals phrases ls).map fun e => (e, rest)
  | ⟨.keyword s, _⟩ :: rest =>
    if ["True", "False", "None"].contains s then some (.constant, rest) else none
  | ⟨.symbol "...", _⟩ :: rest => some (.constant, rest)
  | ⟨.symbol "(", _⟩ :: rest => inParentheses phrases rest
  | ⟨.symbol "[", _⟩ :: rest => inBrackets phrases rest
  | ⟨.symbol "\x7b", _⟩ :: rest => inBraces phrases rest
  | _ => none

/-- The rule of a phrase, over the rules of all phrases. -/
def step (phrases : Phrases) : Phrases
  | .list => expressionList phrases
  | .named => named phrases
  | .expression => expression phrases
  | .disjunction => chain connective (phrases .inversion)
  | .inversion => inversion phrases
  | .sum => chain arithmeticOperator (phrases .operand)
  | .operand => operand phrases
  | .primary => primary phrases
  | .atom => atom phrases
  | .targets => targets phrases

end Expression

/-- The rules of all phrases that nest no deeper than `depth`. -/
def phrase (depth : Nat) (p : Phrase) (ts : Tokens) : Option (Expr × Tokens) :=
  match depth with
  | 0 => none
  | depth + 1 => Expression.step (fun p ts => phrase depth p ts) p ts

end CrudQueries.Source
