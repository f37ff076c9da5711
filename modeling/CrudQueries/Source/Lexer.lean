/-
  CrudQueries.Source.Lexer — the tokens of a text.

  Lines are read one by one. The blanks at the head of a line are measured twice, with tabs
  that reach to the next multiple of eight and with tabs that count as one, and both measures
  must agree on how the line lies to those before it; a form feed starts the measure again. A
  line of blanks and a comment has no tokens. Inside brackets the ends of lines do not count.
  A backslash at the end of a line joins the next line to it, and some line must follow.
-/

import CrudQueries.Source.Keyword
import CrudQueries.Source.Numeral
import CrudQueries.Source.Token
import CrudQueries.Text.Letter
import CrudQueries.Text.Lines

namespace CrudQueries.Source.Lexer

open CrudQueries.Text (isDigit isLetter)

/-! ## Single tokens -/

/-- May `c` begin a name, as far as its code point shows? -/
def mayStartName (c : Char) : Bool := isLetter c || c == '_' || 128 ≤ c.toNat

/-- Are the characters of a name all allowed where they stand? -/
def isName : List Char → Bool
  | [] => false
  | c :: rest =>
    (if c.toNat < 128 then mayStartName c else Text.isIdentifierStart c)
      && rest.all fun c => if c.toNat < 128 then Numeral.mayContinueName c else Text.isIdentifierContinue c

/-- The kinds of a literal that letters before its quote name. -/
def literalKind? (letters : List Char) : Option (Bool × Bool × Bool) :=
  let plain := letters.map Text.lowerLetter
  if plain == [] || plain == ['u'] then some (false, false, false)
  else if plain == ['b'] then some (true, false, false)
  else if plain == ['r'] then some (false, true, false)
  else if plain == ['f'] then some (false, false, true)
  else if plain == ['b', 'r'] || plain == ['r', 'b'] then some (true, true, false)
  else if plain == ['f', 'r'] || plain == ['r', 'f'] then some (false, true, true)
  else none

/-- The body of a literal between single quotes, last character first, and what follows. -/
def shortBody (quote : Char) (read : List Char) : List Char → Option (List Char × List Char)
  | [] => none
  | '\\' :: c :: rest => shortBody quote (c :: '\\' :: read) rest
  | c :: rest =>
    if c == quote then some (read, rest)
    else if c == '\n' then none
    else shortBody quote (c :: read) rest

/-- The body of a literal between triple quotes, last character first, and what follows. -/
def longBody (quote : Char) (read : List Char) : List Char → Option (List Char × List Char)
  | [] => none
  | '\\' :: c :: rest => longBody quote (c :: '\\' :: read) rest
  | a :: b :: c :: rest =>
    if a == quote && b == quote && c == quote then some (read, rest)
    else longBody quote (a :: read) (b :: c :: rest)
  | a :: rest => longBody quote (a :: read) rest

/-- The body of a literal from its first quote on, and what follows. -/
def literalBody (quote : Char) (cs : List Char) : Option (List Char × List Char) :=
  match cs with
  | a :: b :: c :: rest =>
    if a == quote && b == quote && c == quote then (longBody quote [] rest).map fun (b, r) => (b.reverse, r)
    else (shortBody quote [] (b :: c :: rest)).map fun (b, r) => (b.reverse, r)
  | _ :: rest => (shortBody quote [] rest).map fun (b, r) => (b.reverse, r)
  | [] => none

def isQuote (c : Char) : Bool := c == '\'' || c == '"'

/-- A name, a keyword or a literal with letters before its quote. -/
def wordToken (cs : List Char) : Option (Lexeme × List Char) :=
  let word := cs.takeWhile Numeral.mayContinueName
  let rest := cs.dropWhile Numeral.mayContinueName
  let plain := if isName word then
      let s := String.ofList word
      some (if isKeyword s then Lexeme.keyword s else .name s, rest)
    else none
  match rest with
  | q :: _ =>
    if isQuote q then
      match literalKind? word with
      | some (isBytes, isRaw, isFormatted) =>
        (literalBody q rest).map fun (body, rest) => (.literal ⟨isBytes, isRaw, isFormatted, body⟩, rest)
      | none => plain
    else plain
  | [] => plain

/-- The symbols of three, two and one characters. -/
def symbols : List String := [
  "**=", "//=", "<<=", ">>=", "...",
  "!=", "%=", "&=", "**", "*=", "+=", "-=", "->", "//", "/=", ":=", "<<", "<=", "==", ">=", ">>",
  "@=", "^=", "|=",
  "(", ")", "[", "]", "\x7b", "\x7d", ":", ",", ";", "+", "-", "*", "/", "|", "&", "<", ">", "=", ".",
  "%", "~", "^", "@"]

/-- The longest symbol at the head of the text. `<>` is none. -/
def symbolToken (cs : List Char) : Option (Lexeme × List Char) :=
  if ['<', '>'].isPrefixOf cs then none
  else (symbols.find? fun s => s.toList.isPrefixOf cs).map fun s => (.symbol s, cs.drop s.length)

/-- The token at the head of the text, which is no blank. -/
def token (cs : List Char) : Option (Lexeme × List Char) :=
  match cs with
  | [] => none
  | c :: rest =>
    if mayStartName c then wordToken cs
    else if isQuote c then
      (literalBody c cs).map fun (body, rest) => (.literal ⟨false, false, false, body⟩, rest)
    else if isDigit c || (c == '.' && (rest.head?.map isDigit).getD false) then
      (Numeral.read? cs).map fun (imaginary, rest) => (.number imaginary, rest)
    else symbolToken cs

/-! ## Lines -/

/-- What has been seen of the text so far: the line, the margins of the open blocks from the
  innermost out, the open brackets from the innermost out, and the tokens, last first. -/
structure State where
  line : Nat := 1
  margins : List (Nat × Nat) := []
  brackets : List String := []
  tokens : List Token := []

/-- The brackets that may be open at once. -/
def bracketLimit : Nat := 200

/-- The blocks that may be open at once. -/
def blockLimit : Nat := 99

def State.push (st : State) (lexeme : Lexeme) : State :=
  { st with tokens := ⟨lexeme, st.line⟩ :: st.tokens }

def closes (opening closing : String) : Bool :=
  (opening, closing) == ("(", ")") || (opening, closing) == ("[", "]")
    || (opening, closing) == ("\x7b", "\x7d")

/-- Notes a bracket that opens or closes; `none` if it closes nothing. -/
def State.bracket (st : State) (symbol : String) : Option State :=
  if symbol == "(" || symbol == "[" || symbol == "\x7b" then
    if st.brackets.length ≥ bracketLimit then none
    else some { st with brackets := symbol :: st.brackets }
  else if symbol == ")" || symbol == "]" || symbol == "\x7d" then
    match st.brackets with
    | opening :: rest => if closes opening symbol then some { st with brackets := rest } else none
    | [] => none
  else some st

/-- The margins and dedents when a line begins at `(column, plain)`. -/
def dedents (column plain : Nat) : List (Nat × Nat) → Option (List (Nat × Nat) × Nat)
  | [] => if column == 0 && plain == 0 then some ([], 0) else none
  | (c, p) :: outer =>
    if column < c then (dedents column plain outer).map fun (margins, n) => (margins, n + 1)
    else if column == c && plain == p then some ((c, p) :: outer, 0)
    else none

/-- Opens or closes blocks for a line that begins at `(column, plain)`. -/
def State.margin (st : State) (column plain : Nat) : Option State :=
  let (c, p) := st.margins.headD (0, 0)
  if column > c then
    if st.margins.length ≥ blockLimit || plain ≤ p then none
    else some { st.push .indent with margins := (column, plain) :: st.margins }
  else
    (dedents column plain st.margins).map fun (margins, n) =>
      n.repeat (·.push .dedent) { st with margins }

/-- What precedes the first token of a line: the columns that count, and the lines joined. -/
structure Margin where
  column : Nat := 0
  plain : Nat := 0
  joined : Nat := 0
  first : Nat := 0

/-- The blanks at the head of a line. Of joined lines the first margin counts, unless it is
  nothing. -/
def margin (m : Margin) : List Char → Option (Margin × List Char)
  | ' ' :: rest => margin { m with column := m.column + 1, plain := m.plain + 1 } rest
  | '\t' :: rest => margin { m with column := (m.column / 8 + 1) * 8, plain := m.plain + 1 } rest
  | '\x0c' :: rest => margin { m with column := 0, plain := 0 } rest
  | '\\' :: '\n' :: c :: rest =>
    margin { m with joined := m.joined + 1, first := if m.first == 0 then m.column else m.first } (c :: rest)
  | '\\' :: _ => none
  | cs => some (m, cs)

/-- The text after a comment. -/
def afterComment (cs : List Char) : List Char := cs.dropWhile (· != '\n')

def newlines (cs : List Char) : Nat := cs.count '\n'

/-- Closes all blocks at the end of the text; no bracket may be open. -/
def State.close (st : State) : Option (List Token) :=
  if !st.brackets.isEmpty then none
  else some ((st.margins.length.repeat (·.push .dedent) st).push .finish).tokens.reverse

mutual

/-- The tokens from the beginning of a line on. -/
def readLine (fuel : Nat) (st : State) (cs : List Char) : Option (List Token) :=
  match fuel with
  | 0 => none
  | fuel + 1 => do
    let (m, rest) ← margin {} cs
    let st := { st with line := st.line + m.joined }
    match rest with
    | [] => st.close
    | '\n' :: rest => readLine fuel { st with line := st.line + 1 } rest
    | '#' :: rest =>
      match afterComment rest with
      | '\n' :: rest => readLine fuel { st with line := st.line + 1 } rest
      | rest => readLine fuel st rest
    | rest =>
      if !st.brackets.isEmpty then readTokens fuel st rest
      else
        let st ← if m.first == 0 then st.margin m.column m.plain else st.margin m.first m.first
        readTokens fuel st rest

/-- The tokens from the middle of a line on. -/
def readTokens (fuel : Nat) (st : State) (cs : List Char) : Option (List Token) :=
  match fuel with
  | 0 => none
  | fuel + 1 =>
    match cs with
    | [] => if st.brackets.isEmpty then st.close else none
    | ' ' :: rest | '\t' :: rest | '\x0c' :: rest => readTokens fuel st rest
    | '#' :: rest => readTokens fuel st (afterComment rest)
    | '\n' :: rest =>
      let next := fun (st : State) => { st with line := st.line + 1 }
      if st.brackets.isEmpty then readLine fuel (next (st.push .lineEnd)) rest
      else readLine fuel (next st) rest
    | '\\' :: '\n' :: c :: rest => readTokens fuel { st with line := st.line + 1 } (c :: rest)
    | '\\' :: _ => none
    | _ => do
      let (lexeme, rest) ← token cs
      let st := st.push lexeme
      let st ← match lexeme with
        | .symbol s => st.bracket s
        | _ => some st
      let lines := match lexeme with
        | .literal l => newlines l.body
        | _ => 0
      readTokens fuel { st with line := st.line + lines } rest

end

/-- The tokens of a text; a newline is added to a text that does not end with one. -/
def tokens? (source : List Char) : Option (List Token) :=
  let cs := Text.normalNewlines source
  let cs := if cs.getLast? == some '\n' then cs else cs ++ ['\n']
  readLine (2 * cs.length + 2) {} cs

end CrudQueries.Source.Lexer
