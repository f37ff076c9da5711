/-
  CrudQueries.Source.Rule — rules of the grammar.

  A rule reads a phrase at the head of the tokens and gives what it means and the tokens after
  it, or nothing. Rules that refer to each other are given all of them as an argument, and the
  whole is tied together by a depth that bounds how far phrases nest.
-/

import CrudQueries.Source.Tree
import CrudQueries.Source.Token

namespace CrudQueries.Source

abbrev Tokens := List Token

abbrev Rule (α : Type) := Tokens → Option (α × Tokens)

/-! ## Single tokens -/

/-- Is the next token this symbol? -/
def atSymbol (s : String) : Tokens → Bool
  | ⟨.symbol t, _⟩ :: _ => s == t
  | _ => false

/-- Is the next token one of these symbols? -/
def atSymbols (ss : List String) : Tokens → Bool
  | ⟨.symbol t, _⟩ :: _ => ss.contains t
  | _ => false

/-- Is the next token this keyword? -/
def atWord (s : String) : Tokens → Bool
  | ⟨.keyword t, _⟩ :: _ => s == t
  | _ => false

/-- Is the next token this name? -/
def atName (s : String) : Tokens → Bool
  | ⟨.name t, _⟩ :: _ => s == t
  | _ => false

/-- The tokens after a symbol. -/
def symbol (s : String) (ts : Tokens) : Option Tokens := if atSymbol s ts then some (ts.drop 1) else none

/-- The tokens after a keyword. -/
def word (s : String) (ts : Tokens) : Option Tokens := if atWord s ts then some (ts.drop 1) else none

/-- A name. -/
def name : Rule String
  | ⟨.name s, _⟩ :: rest => some (s, rest)
  | _ => none

/-- The tokens after the end of a line. -/
def lineEnd : Tokens → Option Tokens
  | ⟨.lineEnd, _⟩ :: rest => some rest
  | _ => none

/-- The line of the next token. -/
def lineOf (ts : Tokens) : Nat := (ts.head?.map (·.line)).getD 0

/-! ## Lists -/

/-- Phrases with a comma between each two, after a first one; the comma after the last one is
  taken too. Gives the phrases and whether there was a last comma. -/
def afterCommas {α : Type} (fuel : Nat) (item : Rule α) (read : List α) (ts : Tokens) :
    (List α × Bool) × Tokens :=
  match fuel with
  | 0 => ((read.reverse, false), ts)
  | fuel + 1 =>
    match symbol "," ts with
    | none => ((read.reverse, false), ts)
    | some rest =>
      match item rest with
      | none => ((read.reverse, true), rest)
      | some (a, rest) => afterCommas fuel item (a :: read) rest

/-- One or more phrases with commas; and whether a comma ends them. -/
def commaList {α : Type} (item : Rule α) : Rule (List α × Bool) := fun ts => do
  let (a, rest) ← item ts
  some (afterCommas ts.length item [a] rest)

/-- One or more phrases with commas between them and none at the end. -/
def commaSeparated {α : Type} (item : Rule α) : Rule (List α) := fun ts => do
  let ((items, ended), rest) ← commaList item ts
  if ended then none else some (items, rest)

/-- As many phrases as there are, none at all included. -/
def many {α : Type} (fuel : Nat) (item : Rule α) (read : List α) (ts : Tokens) : List α × Tokens :=
  match fuel with
  | 0 => (read.reverse, ts)
  | fuel + 1 =>
    match item ts with
    | none => (read.reverse, ts)
    | some (a, rest) => many fuel item (a :: read) rest

/-- A phrase that may be missing. -/
def maybe {α : Type} (rule : Rule α) (ts : Tokens) : Option α × Tokens :=
  match rule ts with
  | some (a, rest) => (some a, rest)
  | none => (none, ts)

/-- The first rule, or else the second. -/
def Rule.or {α : Type} (first second : Rule α) : Rule α := fun ts => (first ts).or (second ts)

end CrudQueries.Source
