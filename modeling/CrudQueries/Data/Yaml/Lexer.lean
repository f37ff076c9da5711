/-
  CrudQueries.Data.Yaml.Lexer — a YAML text as tokens.

  Outside of flow brackets indentation makes structure: an item that stands further right than the
  block around it begins a block (`open`), one further left ends blocks (`unwind`). A colon may
  turn out to follow a key that has been read before; so the place of each item that could be a
  key is kept (`Candidate`), at most one in each nesting of brackets, until the line ends or 1024
  characters have gone by. A key that must be one, since it begins a line of its block, is a fault
  without its colon.
-/

import CrudQueries.Data.Yaml.Scalar
import CrudQueries.Text.Utf8

namespace CrudQueries.Data.Yaml

open CrudQueries.Text (isAlphanumeric isDigit)

/-- An item that could be a key: how many tokens come before it, and where it begins. -/
structure Candidate where
  before : Nat
  required : Bool
  index : Nat
  line : Nat
  column : Nat

structure Lexer where
  cursor : Cursor
  /-- The tokens so far, the last one first, and how many there are. -/
  read : List Token := []
  count : Nat := 0
  /-- How many flow brackets are open. -/
  depth : Nat := 0
  /-- The indentation of the block, and those of the blocks around it. -/
  indent : Int := -1
  outer : List Int := []
  /-- May a key begin here? -/
  keyAllowed : Bool := true
  candidates : List (Nat × Candidate) := []
  done : Bool := false

abbrev Lexing := Except ReadError Lexer

namespace Lexer

def inFlow (l : Lexer) : Bool := l.depth > 0

def push (l : Lexer) (t : Token) : Lexer := { l with read := t :: l.read, count := l.count + 1 }

/-- Puts a token between the first `before` tokens and the others. -/
def insert (l : Lexer) (before : Nat) (t : Token) : Lexer :=
  let later := l.count - before
  { l with read := l.read.take later ++ t :: l.read.drop later, count := l.count + 1 }

/-- Ends the blocks that stand further right than the column. -/
def unwindFrom (column : Int) (l : Lexer) : List Int → Lexer
  | [] => l
  | indent :: outer =>
    if l.indent > column then unwindFrom column { l.push .blockEnd with indent, outer } outer else l

def unwind (l : Lexer) (column : Int) : Lexer :=
  if l.inFlow then l else unwindFrom column l l.outer

/-- Makes the column the indentation of a new block if it is further right; says if it did. -/
def «open» (l : Lexer) (column : Nat) : Lexer × Bool :=
  if l.indent < column then ({ l with indent := column, outer := l.indent :: l.outer }, true)
  else (l, false)

/-- Begins a block at the column with a token, if the column is further right. -/
def openWith (l : Lexer) (column : Nat) (t : Token) : Lexer :=
  let (l, opened) := l.open column
  if opened then l.push t else l

/-! ## Keys -/

/-- Drops the candidates that are too far back. -/
def dropStale (l : Lexer) : Lexing :=
  let isStale (c : Candidate) : Bool := c.line != l.cursor.line || l.cursor.index - c.index > 1024
  if l.candidates.any fun (_, c) => isStale c && c.required then .error .malformed
  else .ok { l with candidates := l.candidates.filter fun (_, c) => !isStale c }

/-- Drops the candidate of this nesting. -/
def dropCandidate (l : Lexer) : Lexing :=
  match l.candidates.lookup l.depth with
  | none => .ok l
  | some c =>
    if c.required then .error .malformed
    else .ok { l with candidates := l.candidates.filter fun (depth, _) => depth != l.depth }

/-- Makes the item that begins here a candidate, if a key may begin here. -/
def saveCandidate (l : Lexer) : Lexing :=
  if l.keyAllowed then do
    let required := !l.inFlow && l.indent == l.cursor.column
    let l ← l.dropCandidate
    .ok { l with candidates :=
      (l.depth, ⟨l.count, required, l.cursor.index, l.cursor.line, l.cursor.column⟩) :: l.candidates }
  else .ok l

/-! ## Directives, tags and names -/

def isNameCharacter (c : Char) : Bool := isAlphanumeric c || c == '-' || c == '_'

/-- A name of letters, digits, hyphens and underscores. -/
def name (c : Cursor) : Except ReadError (String × Cursor) :=
  match c.run isNameCharacter with
  | ([], _) => .error .malformed
  | (chars, c) => .ok (String.ofList chars, c)

def number (c : Cursor) : Except ReadError (Nat × Cursor) :=
  match c.run isDigit with
  | ([], _) => .error .malformed
  | (digits, c) => .ok (Text.digitsValue digits, c)

/-- The handle of a tag: an exclamation mark, alone or with another after a name. -/
def handle (c : Cursor) : Except ReadError (String × Cursor) :=
  if c.peek != some '!' then .error .malformed
  else if c.peekAt 1 == some ' ' then .ok ("!", c.step)
  else
    let (chars, after) := c.step.run isNameCharacter
    if after.peek == some '!' then .ok ("!" ++ String.ofList chars ++ "!", after.step) else .error .malformed

def isAddressCharacter (c : Char) : Bool :=
  isAlphanumeric c || "-;/?:@&=+$,_.!~*'()[]".toList.contains c

/-- The bytes that percent signs and digits write. -/
def percentBytes : List Char → Except ReadError (List UInt8)
  | '%' :: a :: b :: rest => do
    match Text.hexValue? a, Text.hexValue? b with
    | some a, some b =>
      let bytes ← percentBytes rest
      .ok (UInt8.ofNat (a * 16 + b) :: bytes)
    | _, _ => .error .malformed
  | '%' :: _ => .error .malformed
  | _ => .ok []

/-- An address, in which percent signs write bytes. -/
def addressFrom (fuel : Nat) (c : Cursor) (read : List Char) : Except ReadError (List Char × Cursor) :=
  match fuel with
  | 0 => .ok (read, c)
  | fuel + 1 =>
    if c.peek == some '%' then do
      let bytes ← percentBytes c.rest
      match Text.Utf8.decode ⟨bytes.toArray⟩ with
      | .error _ => .error .malformed
      | .ok s => addressFrom fuel (c.steps (3 * bytes.length)) (read ++ s.toList)
    else
      match c.run isAddressCharacter with
      | ([], c) => .ok (read, c)
      | (chars, c) => addressFrom fuel c (read ++ chars)

def address (c : Cursor) : Except ReadError (String × Cursor) := do
  match ← addressFrom (c.rest.length + 1) c [] with
  | ([], _) => .error .malformed
  | (chars, c) => .ok (String.ofList chars, c)

/-- A directive; the cursor is at its percent sign. -/
def directive (c : Cursor) : Except ReadError (Directive × Cursor) := do
  let (word, c) ← name c.step
  if !endsItem c.peek then .error .malformed
  else
    let (d, c) ← match word with
      | "YAML" => do
        let (major, c) ← number c.skipSpaces
        if c.peek != some '.' then .error .malformed
        else
          let (minor, c) ← number c.step
          if endsItem c.peek then .ok (Directive.version major minor, c) else .error .malformed
      | "TAG" => do
        let (handle, c) ← handle c.skipSpaces
        if c.peek != some ' ' then .error .malformed
        else
          let (expansion, c) ← address c.skipSpaces
          if endsItem c.peek then .ok (Directive.handle handle expansion, c) else .error .malformed
      | _ => .ok (Directive.other, c.skipLine)
    let c ← c.restOfLine
    .ok (d, c)

/-- A tag; the cursor is at its exclamation mark. -/
def tag (c : Cursor) : Except ReadError (Token × Cursor) := do
  let (token, c) ←
    if c.peekAt 1 == some '<' then do
      let (suffix, c) ← address (c.steps 2)
      if c.peek == some '>' then .ok (Token.tag none suffix, c.step) else .error .malformed
    else if endsWord (c.peekAt 1) then .ok (Token.tag none "!", c.step)
    else do
      let (word, _) := c.step.run fun ch => !endsItem (some ch)
      let (handle, c) ← if word.contains '!' then handle c else .ok ("!", c.step)
      let (suffix, c) ← address c
      .ok (Token.tag (some handle) suffix, c)
  if endsItem c.peek then .ok (token, c) else .error .malformed

/-- The name of an anchor or alias; the cursor is at its first character. -/
def anchorName (c : Cursor) : Except ReadError (String × Cursor) := do
  let (name, c) ← name c.step
  if endsWord c.peek || "?:,]\x7d%@\x60".toList.any (c.peek == some ·) then .ok (name, c) else .error .malformed

/-! ## One token -/

/-- Past spaces, comments and line ends; a line end allows a key. -/
def skipFrom (fuel : Nat) (l : Lexer) : Lexer :=
  match fuel with
  | 0 => l
  | fuel + 1 =>
    let c := l.cursor.skipSpaces
    let c := if c.peek == some '#' then c.skipLine else c
    match c.lineBreak with
    | ([], c) => { l with cursor := c }
    | (_, c) => skipFrom fuel { l with cursor := c, keyAllowed := l.keyAllowed || !l.inFlow }

def skipGap (l : Lexer) : Lexer :=
  let c := l.cursor
  let c := if c.index == 0 && c.peek == some '\uFEFF' then c.step else c
  skipFrom (c.rest.length + 1) { l with cursor := c }

/-- What stands between documents ends all blocks. -/
def betweenDocuments (l : Lexer) : Lexing := do
  let l ← (l.unwind (-1)).dropCandidate
  .ok { l with keyAllowed := false }

def streamEnd (l : Lexer) : Lexing := do
  let l ← l.betweenDocuments
  .ok { l.push .streamEnd with done := true }

def documentMark (l : Lexer) (t : Token) : Lexing := do
  let l ← l.betweenDocuments
  .ok { l.push t with cursor := l.cursor.steps 3 }

def openBracket (l : Lexer) (t : Token) : Lexing := do
  let l ← l.saveCandidate
  .ok { l.push t with cursor := l.cursor.step, depth := l.depth + 1, keyAllowed := true }

def closeBracket (l : Lexer) (t : Token) : Lexing := do
  let l ← l.dropCandidate
  if l.depth == 0 then .error .malformed
  else .ok { l.push t with cursor := l.cursor.step, depth := l.depth - 1, keyAllowed := false }

def comma (l : Lexer) : Lexing := do
  let l ← l.dropCandidate
  .ok { l.push .comma with cursor := l.cursor.step, keyAllowed := true }

/-- A hyphen before an item of a block. -/
def entry (l : Lexer) : Lexing :=
  if !l.inFlow && !l.keyAllowed then .error .malformed
  else do
    let l := if l.inFlow then l else l.openWith l.cursor.column .blockSequence
    let l ← l.dropCandidate
    .ok { l.push .entry with cursor := l.cursor.step, keyAllowed := true }

/-- A question mark before a key. -/
def key (l : Lexer) : Lexing :=
  if !l.inFlow && !l.keyAllowed then .error .malformed
  else do
    let l := if l.inFlow then l else l.openWith l.cursor.column .blockMapping
    let l ← l.dropCandidate
    .ok { l.push .key with cursor := l.cursor.step, keyAllowed := !l.inFlow }

/-- A colon before a value: what could be a key before it is one. -/
def value (l : Lexer) : Lexing :=
  match l.candidates.lookup l.depth with
  | some c =>
    let l := { l with candidates := l.candidates.filter fun (depth, _) => depth != l.depth }
    let l := l.insert c.before .key
    let (l, opened) := if l.inFlow then (l, false) else l.open c.column
    let l := if opened then l.insert c.before .blockMapping else l
    .ok { l.push .value with cursor := l.cursor.step, keyAllowed := false }
  | none =>
    if !l.inFlow && !l.keyAllowed then .error .malformed
    else do
      let l := if l.inFlow then l else l.openWith l.cursor.column .blockMapping
      let l ← { l with keyAllowed := !l.inFlow }.dropCandidate
      .ok { l.push .value with cursor := l.cursor.step }

/-- An item that can be a key. -/
def item (l : Lexer) (read : Cursor → Except ReadError (Token × Cursor)) : Lexing := do
  let l ← l.saveCandidate
  let (t, cursor) ← read l.cursor
  .ok { l.push t with cursor, keyAllowed := false }

def plain (l : Lexer) : Lexing := do
  let l ← l.saveCandidate
  let (text, cursor, keyAllowed) := l.cursor.plainScalar l.inFlow l.indent
  .ok { l.push (.scalar text true) with cursor, keyAllowed }

def block (l : Lexer) (fold : Bool) : Lexing := do
  let l ← l.dropCandidate
  let (text, cursor) ← l.cursor.blockScalar fold l.indent
  .ok { l.push (.scalar text false) with cursor, keyAllowed := true }

def quoted (double : Bool) (c : Cursor) : Except ReadError (Token × Cursor) :=
  (c.quotedScalar double).map fun (text, c) => (.scalar text false, c)

def named (make : String → Token) (c : Cursor) : Except ReadError (Token × Cursor) :=
  (anchorName c).map fun (name, c) => (make name, c)

/-- May a plain scalar begin with `ch`, the character `next` coming after it? -/
def beginsPlain (inFlow : Bool) (ch : Char) (next : Option Char) : Bool :=
  !(endsWord (some ch) || "-?:,[]\x7b\x7d#&*!|>'\"%@\x60".toList.contains ch)
    || (!endsWord next && (ch == '-' || (!inFlow && (ch == '?' || ch == ':'))))

/-- The next token. -/
def fetch (l : Lexer) : Lexing := do
  let l ← l.skipGap.dropStale
  let c := l.cursor
  let l := l.unwind c.column
  let wordEnds := endsWord (c.peekAt 1)
  match c.peek with
  | none => l.streamEnd
  | some ch =>
    if ch == '%' && c.column == 0 then do
      let l ← l.betweenDocuments
      let (d, cursor) ← directive c
      .ok { l.push (.directive d) with cursor }
    else if c.column == 0 && c.marks '-' then l.documentMark .documentStart
    else if c.column == 0 && c.marks '.' then l.documentMark .documentEnd
    else
      match ch with
      | '[' => l.openBracket .flowSequence
      | '{' => l.openBracket .flowMapping
      | ']' => l.closeBracket .flowSequenceEnd
      | '}' => l.closeBracket .flowMappingEnd
      | ',' => l.comma
      | '*' => l.item (named .reference)
      | '&' => l.item (named .anchor)
      | '!' => l.item tag
      | '\'' => l.item (quoted false)
      | '"' => l.item (quoted true)
      | _ =>
        if ch == '-' && wordEnds then l.entry
        else if ch == '?' && (l.inFlow || wordEnds) then l.key
        else if ch == ':' && (l.inFlow || wordEnds) then l.value
        else if ch == '|' && !l.inFlow then l.block false
        else if ch == '>' && !l.inFlow then l.block true
        else if beginsPlain l.inFlow ch (c.peekAt 1) then l.plain
        else .error .malformed

/-- All tokens that are left. -/
def tokensFrom (fuel : Nat) (l : Lexer) : List Token :=
  match fuel with
  | 0 => l.read.reverse
  | fuel + 1 =>
    if l.done then l.read.reverse
    else
      match l.fetch with
      | .ok l => tokensFrom fuel l
      | .error e => (Token.fault e :: l.read).reverse

end Lexer

/-- May a character stand in a text? -/
def isTextCharacter (c : Char) : Bool :=
  let n := c.toNat
  n == 0x9 || n == 0xA || n == 0xD || (0x20 ≤ n && n ≤ 0x7E) || n == 0x85 || (0xA0 ≤ n && n ≤ 0xFFFD)
    || 0x10000 ≤ n

/-- The tokens of a text. -/
def tokens (s : String) : List Token :=
  if s.toList.all isTextCharacter then Lexer.tokensFrom (s.length + 2) { cursor := { rest := s.toList } }
  else [.fault .malformed]

end CrudQueries.Data.Yaml
