/-
  CrudQueries.Data.Yaml.Cursor — a place in a text, with its line and column.

  Five characters end lines; a carriage return and the line feed after it end one together. A
  line end is read as a line feed, except that the line and paragraph separators stay themselves.
  The byte order mark takes no column.
-/

import CrudQueries.Text.Figures

namespace CrudQueries.Data.Yaml

structure Cursor where
  rest : List Char
  index : Nat := 0
  line : Nat := 0
  column : Nat := 0
  deriving Repr

def isBreak (c : Char) : Bool :=
  c == '\n' || c == '\r' || c == '\x85' || c == '\u2028' || c == '\u2029'

/-- Does a line end, or the text, at this character? -/
def endsLine : Option Char → Bool
  | none => true
  | some c => isBreak c

/-- Does a line end here, or does a space follow? -/
def endsItem (c : Option Char) : Bool := c == some ' ' || endsLine c

/-- Does a line end here, or does a space or tab follow? -/
def endsWord (c : Option Char) : Bool := c == some '\t' || endsItem c

def isIndent (c : Char) : Bool := c == ' ' || c == '\t'

namespace Cursor

def peek (c : Cursor) : Option Char := c.rest.head?

def peekAt (c : Cursor) (n : Nat) : Option Char := c.rest[n]?

/-- One character further. -/
def step (c : Cursor) : Cursor :=
  match c.rest with
  | [] => c
  | ch :: rest =>
    if isBreak ch && !(ch == '\r' && rest.head? == some '\n') then ⟨rest, c.index + 1, c.line + 1, 0⟩
    else ⟨rest, c.index + 1, c.line, if ch == '\uFEFF' then c.column else c.column + 1⟩

def steps (c : Cursor) : Nat → Cursor
  | 0 => c
  | n + 1 => c.step.steps n

/-- The characters up to the first that `p` refuses, and the place of that one. -/
def run (c : Cursor) (p : Char → Bool) : List Char × Cursor :=
  let chars := c.rest.takeWhile p
  (chars, c.steps chars.length)

def skip (c : Cursor) (p : Char → Bool) : Cursor := (c.run p).2

def skipSpaces (c : Cursor) : Cursor := c.skip (· == ' ')

/-- To the end of the line. -/
def skipLine (c : Cursor) : Cursor := c.skip fun ch => !isBreak ch

/-- What a line end here is read as, nothing if there is none, and the place after it. -/
def lineBreak (c : Cursor) : List Char × Cursor :=
  match c.rest with
  | '\r' :: '\n' :: _ => (['\n'], c.steps 2)
  | ch :: _ =>
    if ch == '\u2028' || ch == '\u2029' then ([ch], c.step)
    else if isBreak ch then (['\n'], c.step)
    else ([], c)
  | [] => ([], c)

/-- Do three of `ch` stand here alone, as the marks between documents do? -/
def marks (c : Cursor) (ch : Char) : Bool :=
  c.rest.take 3 == [ch, ch, ch] && endsWord (c.peekAt 3)

/-- Does a mark between documents stand here? -/
def atDocumentMark (c : Cursor) : Bool := c.marks '-' || c.marks '.'

end Cursor

end CrudQueries.Data.Yaml
