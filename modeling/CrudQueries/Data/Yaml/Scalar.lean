/-
  CrudQueries.Data.Yaml.Scalar — the texts of scalars: plain, quoted, and in blocks.

  Lines of plain and quoted scalars are folded: one line end becomes a space, of more the first
  is dropped. Block scalars are indented; a literal one keeps its lines, a folded one folds those
  that do not begin with a space. What is kept of the line ends after a block is chosen by its
  head: one, all with a plus sign, none with a hyphen.
-/

import CrudQueries.Data.Yaml.Cursor
import CrudQueries.Data.Yaml.Token

namespace CrudQueries.Data.Yaml

open CrudQueries.Text (hexValue? isDigit)

/-- The line end `first` and those after it, folded. -/
def folded (first breaks : List Char) : List Char :=
  if first != ['\n'] then first ++ breaks
  else if breaks.isEmpty then [' ']
  else breaks

namespace Cursor

/-! ## Quoted scalars -/

/-- The line ends of the empty lines from here on, each after its blanks. -/
def quotedBreaks (fuel : Nat) (c : Cursor) (read : List Char) : Except ReadError (List Char × Cursor) :=
  match fuel with
  | 0 => .ok (read, c)
  | fuel + 1 =>
    if c.atDocumentMark then .error .malformed
    else
      let c := c.skip isIndent
      match c.lineBreak with
      | ([], c) => .ok (read, c)
      | (lineEnd, c) => quotedBreaks fuel c (read ++ lineEnd)

/-- Blanks and line ends inside a quoted scalar. -/
def quotedSpaces (c : Cursor) : Except ReadError (List Char × Cursor) :=
  let (blanks, c) := c.run isIndent
  match c.peek with
  | none => .error .malformed
  | some _ =>
    match c.lineBreak with
    | ([], c) => .ok (blanks, c)
    | (first, c) => do
      let (breaks, c) ← c.quotedBreaks c.rest.length []
      .ok (folded first breaks, c)

/-- The character that a letter after a backslash stands for. -/
def escape? : Char → Option Char
  | '0' => some '\x00'
  | 'a' => some '\x07'
  | 'b' => some '\x08'
  | 't' => some '\t'
  | '\t' => some '\t'
  | 'n' => some '\n'
  | 'v' => some '\x0b'
  | 'f' => some '\x0c'
  | 'r' => some '\r'
  | 'e' => some '\x1b'
  | ' ' => some ' '
  | '"' => some '"'
  | '\\' => some '\\'
  | '/' => some '/'
  | 'N' => some '\x85'
  | '_' => some '\xa0'
  | 'L' => some '\u2028'
  | 'P' => some '\u2029'
  | _ => none

/-- How many hexadecimal digits follow a letter after a backslash. -/
def escapeWidth? : Char → Option Nat
  | 'x' => some 2
  | 'u' => some 4
  | 'U' => some 8
  | _ => none

/-- What an escape stands for; the cursor is at the character after the backslash. -/
def escaped (c : Cursor) : Except ReadError (List Char × Cursor) :=
  match c.peek with
  | none => .error .malformed
  | some ch =>
    match escape? ch, escapeWidth? ch with
    | some meant, _ => .ok ([meant], c.step)
    | none, some width =>
      let digits := (c.rest.drop 1).take width
      match digits.mapM hexValue? with
      | none => .error .malformed
      | some values =>
        let code := values.foldl (fun n d => n * 16 + d) 0
        if digits.length < width then .error .malformed
        else if code ≥ 0x110000 then .error (.character code)
        else .ok ([Char.ofNat code], c.steps (width + 1))
    | none, none =>
      match c.lineBreak with
      | ([], _) => .error .malformed
      | (_, c) => c.quotedBreaks c.rest.length []

/-- The rest of a quoted scalar, which is escaped if it is in double quotes. -/
def quotedFrom (fuel : Nat) (double : Bool) (c : Cursor) (read : List Char) : Except ReadError (String × Cursor) :=
  match fuel with
  | 0 => .error .malformed
  | fuel + 1 =>
    let quote := if double then '"' else '\''
    match c.rest with
    | [] => .error .malformed
    | ch :: rest =>
      if ch == quote then
        if !double && rest.head? == some quote then quotedFrom fuel double (c.steps 2) (quote :: read)
        else .ok (String.ofList read.reverse, c.step)
      else if double && ch == '\\' then do
        let (meant, c) ← c.step.escaped
        quotedFrom fuel double c (meant.reverse ++ read)
      else if isIndent ch || isBreak ch then do
        let (spaces, c) ← c.quotedSpaces
        quotedFrom fuel double c (spaces.reverse ++ read)
      else quotedFrom fuel double c.step (ch :: read)

/-- A quoted scalar; the cursor is at its first quote. -/
def quotedScalar (double : Bool) (c : Cursor) : Except ReadError (String × Cursor) :=
  c.step.quotedFrom c.rest.length double []

/-! ## Plain scalars -/

/-- The line ends after one between two lines of a plain scalar, and the indentation of the second;
  nothing if a mark between documents comes first. -/
def plainBreaks (fuel : Nat) (c : Cursor) (read : List Char) : Option (List Char) × Cursor :=
  match fuel with
  | 0 => (some read, c)
  | fuel + 1 =>
    let c := c.skipSpaces
    match c.lineBreak with
    | ([], c) => (some read, c)
    | (lineEnd, c) =>
      if c.atDocumentMark then (none, c) else plainBreaks fuel c (read ++ lineEnd)

/-- What stands for the spaces and line ends here if a plain scalar goes on after them, the place
  after them, and whether a line ended. -/
def plainSpaces (c : Cursor) : Option (List Char) × Cursor × Bool :=
  let (spaces, c) := c.run (· == ' ')
  match c.lineBreak with
  | ([], c) => (if spaces.isEmpty then none else some spaces, c, false)
  | (first, c) =>
    if c.atDocumentMark then (none, c, true)
    else
      let (breaks, c) := c.plainBreaks c.rest.length []
      (breaks.map (folded first), c, true)

/-- Does a plain scalar end before the characters, inside flow brackets or outside of them? -/
def endsPlain (inFlow : Bool) (cs : List Char) : Bool :=
  match cs with
  | [] => true
  | ch :: rest =>
    endsWord (some ch)
      || (ch == ':' && (endsWord rest.head? || (inFlow && ",[]\x7b\x7d".toList.any (rest.head? == some ·))))
      || (inFlow && ",?[]\x7b\x7d".toList.contains ch)

/-- The characters of a plain scalar up to its end or a space. -/
def plainRun (inFlow : Bool) : List Char → List Char
  | [] => []
  | ch :: rest => if endsPlain inFlow (ch :: rest) then [] else ch :: plainRun inFlow rest

/-- The rest of a plain scalar after the text `read` and the spaces `spaces`; lines after the first
  are indented by `indent` at least, outside of flow brackets. Says too whether the last thing
  seen was a line end. -/
def plainFrom (fuel : Nat) (inFlow : Bool) (indent : Int) (c : Cursor) (read spaces : List Char)
    (broken : Bool) : String × Cursor × Bool :=
  let stop : String × Cursor × Bool := (String.ofList read, c, broken)
  match fuel with
  | 0 => stop
  | fuel + 1 =>
    if c.peek == some '#' then stop
    else
      match plainRun inFlow c.rest with
      | [] => stop
      | run =>
        let read := read ++ spaces ++ run
        match (c.steps run.length).plainSpaces with
        | (none, c, broken) => (String.ofList read, c, broken)
        | (some spaces, c, broken) =>
          if c.peek == some '#' || (!inFlow && (c.column : Int) < indent) then (String.ofList read, c, broken)
          else plainFrom fuel inFlow indent c read spaces broken

/-- A plain scalar in a block with the given indentation. -/
def plainScalar (inFlow : Bool) (indent : Int) (c : Cursor) : String × Cursor × Bool :=
  plainFrom (c.rest.length + 1) inFlow (indent + 1) c [] [] false

/-! ## Block scalars -/

/-- What the head of a block scalar says: which line ends to keep at its end, and how far it is
  indented. -/
structure BlockHead where
  keep : Option Bool := none
  indent : Option Nat := none

def keepSign? : Option Char → Option Bool
  | some '+' => some true
  | some '-' => some false
  | _ => none

def indentDigit? : Option Char → Option Nat
  | some ch => if isDigit ch then some (ch.toNat - '0'.toNat) else none
  | none => none

/-- To the line after this one, on which only a comment may follow. -/
def restOfLine (c : Cursor) : Except ReadError Cursor :=
  let c := c.skipSpaces
  let c := if c.peek == some '#' then c.skipLine else c
  if endsLine c.peek then .ok c.lineBreak.2 else .error .malformed

/-- The head of a block scalar; the cursor is after its first character. -/
def blockHead (c : Cursor) : Except ReadError (BlockHead × Cursor) := do
  let (head, c) := match keepSign? c.peek with
    | some keep =>
      match indentDigit? (c.peekAt 1) with
      | some n => ((⟨keep, n⟩ : BlockHead), c.steps 2)
      | none => (⟨keep, none⟩, c.step)
    | none =>
      match indentDigit? c.peek with
      | some n =>
        match keepSign? (c.peekAt 1) with
        | some keep => (⟨keep, n⟩, c.steps 2)
        | none => (⟨none, n⟩, c.step)
      | none => (⟨none, none⟩, c)
  if head.indent == some 0 || !endsItem c.peek then .error .malformed
  else
    let c ← c.restOfLine
    .ok (head, c)

/-- The line ends of the empty lines at the head of a block, and the widest indentation in them or
  of the first line that is not empty. -/
def blockIndentation (fuel : Nat) (c : Cursor) (read : List Char) (widest : Nat) : List Char × Nat × Cursor :=
  match fuel with
  | 0 => (read, widest, c)
  | fuel + 1 =>
    let spaces := c.skipSpaces
    let widest := if c.peek == some ' ' then max widest spaces.column else widest
    match spaces.lineBreak with
    | ([], c) => (read, widest, c)
    | (lineEnd, c) => blockIndentation fuel c (read ++ lineEnd) widest

/-- Past at most as many spaces as lead to the column. -/
def skipIndentation (c : Cursor) (indent : Nat) : Cursor :=
  c.steps (min (indent - c.column) (c.rest.takeWhile (· == ' ')).length)

/-- The line ends of the empty lines from here on, each after its indentation. -/
def blockBreaks (fuel : Nat) (indent : Nat) (c : Cursor) (read : List Char) : List Char × Cursor :=
  let c := c.skipIndentation indent
  match fuel with
  | 0 => (read, c)
  | fuel + 1 =>
    match c.lineBreak with
    | ([], c) => (read, c)
    | (lineEnd, c) => blockBreaks fuel indent c (read ++ lineEnd)

/-- The lines of a block: the text `read` so far, then the line ends `breaks` before the next line.
  Gives the text, its last line end and those after it. -/
def blockLines (fuel : Nat) (fold : Bool) (indent : Nat) (c : Cursor) (read last breaks : List Char) :
    (List Char × List Char × List Char) × Cursor :=
  match fuel with
  | 0 => ((read, last, breaks), c)
  | fuel + 1 =>
    if c.column == indent && c.peek.isSome then
      let (line, afterLine) := c.run fun ch => !isBreak ch
      let read := read ++ breaks ++ line
      let (lineEnd, c') := afterLine.lineBreak
      let (breaks, c') := c'.blockBreaks c'.rest.length indent []
      if c'.column == indent && c'.peek.isSome then
        let folds := fold && lineEnd == ['\n'] && !c.peek.any isIndent && !c'.peek.any isIndent
        let between := if !folds then lineEnd else if breaks.isEmpty then [' '] else []
        blockLines fuel fold indent c' (read ++ between) lineEnd breaks
      else ((read, lineEnd, breaks), c')
    else ((read, last, breaks), c)

/-- A block scalar in a block with the given indentation; the cursor is at its first character. -/
def blockScalar (fold : Bool) (indent : Int) (c : Cursor) : Except ReadError (String × Cursor) := do
  let (head, c) ← c.step.blockHead
  let least := (max (indent + 1) 1).toNat
  let (breaks, indent, c) := match head.indent with
    | some n =>
      let (breaks, c) := c.blockBreaks c.rest.length (least + n - 1) []
      (breaks, least + n - 1, c)
    | none =>
      let (breaks, widest, c) := c.blockIndentation (c.rest.length + 1) [] 0
      (breaks, max least widest, c)
  let ((text, last, breaks), c) := c.blockLines (c.rest.length + 1) fold indent [] [] breaks
  let tail := match head.keep with
    | some false => []
    | none => last
    | some true => last ++ breaks
  .ok (String.ofList (text ++ tail), c)

end Cursor

end CrudQueries.Data.Yaml
