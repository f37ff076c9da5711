/-
  CrudQueries.Data.Json.Writer — JSON text of values.

  Characters outside ASCII stand for themselves; the quote, the backslash and the control
  characters are escaped. An indented text has each item and each entry on a line of its own,
  a step deeper than its container; an empty container stays on its line.
-/

import CrudQueries.Data.Value

namespace CrudQueries.Data.Json

/-- The escaped form of one character of a text. -/
def escapeChar (c : Char) : List Char :=
  if c == '"' then ['\\', '"']
  else if c == '\\' then ['\\', '\\']
  else if c == '\n' then ['\\', 'n']
  else if c == '\r' then ['\\', 'r']
  else if c == '\t' then ['\\', 't']
  else if c == '\x08' then ['\\', 'b']
  else if c == '\x0c' then ['\\', 'f']
  else if c.toNat < 0x20 then '\\' :: 'u' :: Text.hexDigits 4 c.toNat
  else [c]

/-- A text between quotes. -/
def writeText (s : String) : List Char := '"' :: s.toList.flatMap escapeChar ++ ['"']

/-- How containers are laid out: on one line, or by steps of a number of spaces. -/
inductive Layout where
  | oneLine
  | steps (spaces : Nat)
  deriving DecidableEq, Repr

/-- What stands before an item at `depth`, and before the end of a container at `depth`. -/
def Layout.lineBreak (layout : Layout) (depth : Nat) : List Char :=
  match layout with
  | .oneLine => []
  | .steps spaces => '\n' :: List.replicate (spaces * depth) ' '

/-- What stands between two items at `depth`. -/
def Layout.separator (layout : Layout) (depth : Nat) : List Char :=
  match layout with
  | .oneLine => [',', ' ']
  | .steps _ => ',' :: layout.lineBreak depth

/-- Pieces with `separator` between each two. -/
def joinPieces (separator : List Char) : List (List Char) → List Char
  | [] => []
  | [piece] => piece
  | piece :: pieces => piece ++ separator ++ joinPieces separator pieces

/-- A key as the name of an entry. -/
def keyText : Value → String
  | .text s => s
  | .null => "null"
  | .bool b => if b then "true" else "false"
  | v => v.shown

def writeFloat (x : Number.Binary64) : String :=
  match x.view with
  | .notANumber => "NaN"
  | .infinite negative => if negative then "-Infinity" else "Infinity"
  | .finite .. => x.shown

mutual

/-- A value whose container is at `depth`. -/
def writeValue (layout : Layout) (depth : Nat) : Value → List Char
  | .null => ['n', 'u', 'l', 'l']
  | .bool b => if b then ['t', 'r', 'u', 'e'] else ['f', 'a', 'l', 's', 'e']
  | .int n => (toString n).toList
  | .float x => (writeFloat x).toList
  | .text s => writeText s
  | .list items =>
    if items.isEmpty then ['[', ']']
    else
      '[' :: layout.lineBreak (depth + 1)
        ++ joinPieces (layout.separator (depth + 1)) (writeItems layout (depth + 1) items)
        ++ layout.lineBreak depth ++ [']']
  | .map entries =>
    if entries.isEmpty then ['{', '}']
    else
      '{' :: layout.lineBreak (depth + 1)
        ++ joinPieces (layout.separator (depth + 1)) (writeEntries layout (depth + 1) entries)
        ++ layout.lineBreak depth ++ ['}']
  | v => writeText v.shown

def writeItems (layout : Layout) (depth : Nat) : List Value → List (List Char)
  | [] => []
  | v :: rest => writeValue layout depth v :: writeItems layout depth rest

def writeEntries (layout : Layout) (depth : Nat) : List (Value × Value) → List (List Char)
  | [] => []
  | (k, v) :: rest =>
    (writeText (keyText k) ++ ':' :: ' ' :: writeValue layout depth v) :: writeEntries layout depth rest

end

/-- The JSON text of a value. -/
def write (layout : Layout) (v : Value) : String := String.ofList (writeValue layout 0 v)

end CrudQueries.Data.Json
