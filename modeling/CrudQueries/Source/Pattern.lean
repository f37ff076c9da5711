/-
  CrudQueries.Source.Pattern — the grammar of the patterns of a `case`.
-/

import CrudQueries.Source.Expression

namespace CrudQueries.Source

/-- A rule of which only the tokens after the phrase matter. -/
abbrev Skip := Tokens → Option Tokens

/-- A skip as a rule. -/
def Skip.rule (skip : Skip) : Rule Unit := fun ts => (skip ts).map fun rest => ((), rest)

namespace Pattern

/-- A name that a pattern binds: not the wildcard, and no part of a longer phrase. -/
def capture : Skip := fun ts => do
  let (s, rest) ← name ts
  if s == "_" || atSymbols [".", "(", "="] rest then none else some rest

/-- A number with an optional minus sign; whether it is imaginary and whether it has a sign. -/
def signedNumber (ts : Tokens) : Option (Bool × Tokens) :=
  match if atSymbol "-" ts then ts.drop 1 else ts with
  | ⟨.number imaginary, _⟩ :: rest => some (imaginary, rest)
  | _ => none

/-- A number, or the sum or difference of a real and an imaginary one. -/
def number : Skip := fun ts => do
  let (imaginary, rest) ← signedNumber ts
  if atSymbols ["+", "-"] rest then
    match rest.drop 1 with
    | ⟨.number true, _⟩ :: rest => if imaginary then none else some rest
    | _ => none
  else some rest

/-- A literal: a number, texts or a constant. -/
def literal (depth : Nat) : Skip := fun ts =>
  match ts with
  | ⟨.literal _, _⟩ :: _ => (phrase depth .atom ts).map (·.2)
  | ⟨.keyword s, _⟩ :: rest => if ["None", "True", "False"].contains s then some rest else none
  | _ => number ts

/-- A name, or names joined by dots. -/
def dotted : Rule Bool := fun ts => do
  let (_, rest) ← name ts
  some (go rest.length false rest)
where
  go (fuel : Nat) (long : Bool) (ts : Tokens) : Bool × Tokens :=
    match fuel with
    | 0 => (long, ts)
    | fuel + 1 =>
      match symbol "." ts with
      | none => (long, ts)
      | some rest =>
        match name rest with
        | none => (long, ts)
        | some (_, rest) => go fuel true rest

/-- A star and a name. -/
def star : Skip := fun ts => do
  let rest ← symbol "*" ts
  if atName "_" rest then some (rest.drop 1) else capture rest

/-- A pattern, or a starred one. -/
def starOr (pattern : Skip) : Rule Unit := Skip.rule fun ts => (star ts).or (pattern ts)

/-- Patterns with commas, up to and with the closing symbol. -/
def sequence (pattern : Skip) (stop : String) : Skip := fun ts =>
  if atSymbol stop ts then some (ts.drop 1)
  else do
    let (_, rest) ← commaList (starOr pattern) ts
    symbol stop rest

/-- What stands in round brackets: a pattern alone, or a sequence with a comma in it. -/
def inParentheses (pattern : Skip) : Skip := fun ts =>
  if atSymbol ")" ts then some (ts.drop 1)
  else do
    let ((items, ended), rest) ← commaList (starOr pattern) ts
    if items.length == 1 && !ended && atSymbol "*" ts then none else symbol ")" rest

/-- An entry of a mapping pattern; the keys are literals or dotted names. -/
def mappingEntry (depth : Nat) (pattern : Skip) : Rule Bool := fun ts =>
  match symbol "**" ts with
  | some rest => (capture rest).map fun rest => (true, rest)
  | none => do
    let rest ← (literal depth ts).or (do
      let (long, rest) ← dotted ts
      if long then some rest else none)
    let rest ← symbol ":" rest
    let rest ← pattern rest
    some (false, rest)

/-- What stands in braces: entries of which only the last may take the rest. -/
def mapping (depth : Nat) (pattern : Skip) : Skip := fun ts =>
  if atSymbol "\x7d" ts then some (ts.drop 1)
  else do
    let ((entries, _), rest) ← commaList (mappingEntry depth pattern) ts
    if entries.dropLast.any (· == true) then none else symbol "\x7d" rest

/-- An argument of a class pattern; whether it has a name. -/
def classArgument (pattern : Skip) : Rule Bool := fun ts =>
  match name ts with
  | some (_, rest) =>
    if atSymbol "=" rest then (pattern (rest.drop 1)).map fun rest => (true, rest)
    else (pattern ts).map fun rest => (false, rest)
  | none => (pattern ts).map fun rest => (false, rest)

/-- Does no argument without a name come after one with a name? -/
def namesLast : List Bool → Bool
  | true :: false :: _ => false
  | _ :: rest => namesLast rest
  | [] => true

/-- The arguments of a class pattern, after the opening bracket. -/
def classArguments (pattern : Skip) : Skip := fun ts =>
  if atSymbol ")" ts then some (ts.drop 1)
  else do
    let ((args, _), rest) ← commaList (classArgument pattern) ts
    if namesLast args then symbol ")" rest else none

/-- A pattern without alternatives. -/
def closed (depth : Nat) (pattern : Skip) : Skip := fun ts =>
  match ts with
  | ⟨.symbol "(", _⟩ :: rest => inParentheses pattern rest
  | ⟨.symbol "[", _⟩ :: rest => sequence pattern "]" rest
  | ⟨.symbol "\x7b", _⟩ :: rest => mapping depth pattern rest
  | ⟨.name s, _⟩ :: rest =>
    if s == "_" then some rest
    else do
      let (long, rest) ← dotted ts
      if atSymbol "(" rest then classArguments pattern (rest.drop 1)
      else if long && atSymbols [".", "="] rest then none
      else if long then some rest
      else capture ts
  | _ => literal depth ts

/-- Alternatives, and the name that binds what they match. -/
def step (depth : Nat) (pattern : Skip) : Skip := fun ts => do
  let rest ← closed depth pattern ts
  let rest ← alternatives ts.length rest
  if atWord "as" rest then capture (rest.drop 1) else some rest
where
  alternatives (fuel : Nat) (ts : Tokens) : Option Tokens :=
    match fuel, symbol "|" ts with
    | _, none => some ts
    | 0, _ => none
    | fuel + 1, some rest => do
      let rest ← closed depth pattern rest
      alternatives fuel rest

end Pattern

/-- A pattern that nests no deeper than `depth`. -/
def pattern (depth : Nat) (ts : Tokens) : Option Tokens :=
  match depth with
  | 0 => none
  | depth + 1 => Pattern.step depth (fun ts => pattern depth ts) ts

/-- The patterns of a `case`: one, or a sequence without brackets. -/
def casePatterns (depth : Nat) : Skip := fun ts => do
  let ((items, ended), rest) ← commaList (Pattern.starOr (pattern depth)) ts
  if items.length == 1 && !ended && atSymbol "*" ts then none else some rest

end CrudQueries.Source
