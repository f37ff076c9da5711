/-
  CrudQueries.Data.Json.Reader — values from JSON text.

  A text is one value with blanks around it. `NaN`, `Infinity` and `-Infinity` are numbers. In
  an object a name that comes again replaces the value and keeps its place. Control characters
  may not stand in a text unescaped, and an escape for the first half of a surrogate pair takes
  the second half with it. A number with a point or an exponent is the nearest 64-bit one; any
  other is a whole number, of at most 4300 digits.
-/

import CrudQueries.Data.Value
import CrudQueries.Text.Figures

namespace CrudQueries.Data.Json

open CrudQueries.Number (Binary64)
open CrudQueries.Text (isDigit hexValue? digitsValue)

/-- Why a text is no value. -/
inductive ReadError where
  | malformed
  | longNumber (digits : Nat)
  deriving DecidableEq, Repr

def ReadError.message : ReadError → String
  | .malformed => "syntax error"
  | .longNumber digits =>
    "Exceeds the limit (4300 digits) for integer string conversion: value has " ++ toString digits
      ++ " digits; use sys.set_int_max_str_digits() to increase the limit"

/-- A reader's result: what was read and the text after it. -/
abbrev Read (α : Type) := Except ReadError (α × List Char)

/-- The digits that a whole number may have. -/
def digitLimit : Nat := 4300

def isJsonBlank (c : Char) : Bool := c == ' ' || c == '\t' || c == '\n' || c == '\r'

def skipBlanks (cs : List Char) : List Char := cs.dropWhile isJsonBlank

/-- Four hexadecimal digits. -/
def unit? (a b c d : Char) : Option Nat := do
  let a ← hexValue? a
  let b ← hexValue? b
  let c ← hexValue? c
  let d ← hexValue? d
  some (((a * 16 + b) * 16 + c) * 16 + d)

/-- The character of a one-letter escape. -/
def shortEscape? : Char → Option Char
  | '"' => some '"'
  | '\\' => some '\\'
  | '/' => some '/'
  | 'b' => some '\x08'
  | 'f' => some '\x0c'
  | 'n' => some '\n'
  | 'r' => some '\r'
  | 't' => some '\t'
  | _ => none

/-- The character of two surrogate halves. -/
def pairChar (high low : Nat) : Char := Char.ofNat (0x10000 + (high - 0xD800) * 0x400 + (low - 0xDC00))

def isHighHalf (n : Nat) : Bool := 0xD800 ≤ n && n < 0xDC00

def isLowHalf (n : Nat) : Bool := 0xDC00 ≤ n && n < 0xE000

/-- One character of a text after a backslash, and what follows it. -/
def escaped? : List Char → Option (Char × List Char)
  | 'u' :: a :: b :: c :: d :: rest => do
    let n ← unit? a b c d
    match rest with
    | '\\' :: 'u' :: e :: f :: g :: h :: after =>
      match unit? e f g h with
      | some m =>
        if isHighHalf n && isLowHalf m then some (pairChar n m, after) else some (Char.ofNat n, rest)
      | none => some (Char.ofNat n, rest)
    | _ => some (Char.ofNat n, rest)
  | c :: rest => (shortEscape? c).map fun e => (e, rest)
  | [] => none

/-- A text's characters up to its closing quote; `read` holds those before, last first. -/
def textBody (fuel : Nat) (read : List Char) (cs : List Char) : Option (List Char × List Char) :=
  match fuel, cs with
  | 0, _ => none
  | _, [] => none
  | _ + 1, '"' :: rest => some (read.reverse, rest)
  | fuel + 1, '\\' :: rest => do
    let (c, rest) ← escaped? rest
    textBody fuel (c :: read) rest
  | fuel + 1, c :: rest => if c.toNat < 0x20 then none else textBody fuel (c :: read) rest

/-- A text after its opening quote. -/
def readText (cs : List Char) : Read String :=
  match textBody (cs.length + 1) [] cs with
  | some (body, rest) => .ok (String.ofList body, rest)
  | none => .error .malformed

/-- The whole part of a number: a zero alone or digits that do not begin with one. -/
def wholePart? : List Char → Option (List Char × List Char)
  | '0' :: rest => some (['0'], rest)
  | c :: rest => if isDigit c then some ((c :: rest).takeWhile isDigit, rest.dropWhile isDigit) else none
  | [] => none

/-- The digits after a point, if there are any; a point without digits is not taken. -/
def fractionPart : List Char → List Char × List Char
  | '.' :: c :: rest =>
    if isDigit c then ((c :: rest).takeWhile isDigit, (c :: rest).dropWhile isDigit) else ([], '.' :: c :: rest)
  | cs => ([], cs)

/-- The exponent, if there is a whole one. -/
def exponentPart (cs : List Char) : Option Int × List Char :=
  match cs with
  | e :: rest =>
    if e == 'e' || e == 'E' then
      let (negative, digits) := match rest with
        | '-' :: r => (true, r)
        | '+' :: r => (false, r)
        | r => (false, r)
      let power := digits.takeWhile isDigit
      if power.isEmpty then (none, cs)
      else
        let n := digitsValue power
        (some (if negative then -(n : Int) else n), digits.dropWhile isDigit)
    else (none, cs)
  | [] => (none, [])

/-- A number without its sign. -/
def readNumber (negative : Bool) (cs : List Char) : Read Value :=
  match wholePart? cs with
  | none => .error .malformed
  | some (whole, rest) =>
    let (fraction, rest) := fractionPart rest
    let (exponent, rest) := exponentPart rest
    if fraction.isEmpty && exponent.isNone then
      if whole.length > digitLimit then .error (.longNumber whole.length)
      else
        let n := digitsValue whole
        .ok (.int (if negative then -(n : Int) else n), rest)
    else
      let digits := digitsValue (whole ++ fraction)
      .ok (.float (Binary64.ofDecimal negative digits (exponent.getD 0 - fraction.length)), rest)

/-- The text after `word`, if it stands at the head. -/
def afterWord? (word : List Char) (cs : List Char) : Option (List Char) :=
  if word.isPrefixOf cs then some (cs.drop word.length) else none

/-- A value that is a word. -/
def readWord (cs : List Char) : Read Value :=
  let words : List (String × Value) := [("null", .null), ("true", .bool true), ("false", .bool false),
    ("NaN", .float Binary64.nan), ("Infinity", .float (Binary64.infinity false)),
    ("-Infinity", .float (Binary64.infinity true))]
  match words.findSome? fun (word, value) => (afterWord? word.toList cs).map fun rest => (value, rest) with
  | some found => .ok found
  | none => .error .malformed

mutual

/-- The value at the head of the text. -/
def readValue (fuel : Nat) (cs : List Char) : Read Value :=
  match fuel with
  | 0 => .error .malformed
  | fuel + 1 =>
    match cs with
    | '"' :: rest => (readText rest).map fun (s, rest) => (.text s, rest)
    | '[' :: rest =>
      match skipBlanks rest with
      | ']' :: rest => .ok (.list [], rest)
      | rest => (readItems fuel rest []).map fun (items, rest) => (.list items, rest)
    | '{' :: rest =>
      match skipBlanks rest with
      | '}' :: rest => .ok (.map [], rest)
      | rest => (readEntries fuel rest []).map fun (entries, rest) => (.map entries, rest)
    | '-' :: rest =>
      match rest with
      | 'I' :: _ => readWord cs
      | _ => readNumber true rest
    | c :: _ => if isDigit c then readNumber false cs else readWord cs
    | [] => .error .malformed

/-- The items of a list from one of them to the closing bracket; `read` holds those before,
  last first. -/
def readItems (fuel : Nat) (cs : List Char) (read : List Value) : Read (List Value) :=
  match fuel with
  | 0 => .error .malformed
  | fuel + 1 =>
    match readValue fuel cs with
    | .error e => .error e
    | .ok (item, rest) =>
      match skipBlanks rest with
      | ',' :: rest => readItems fuel (skipBlanks rest) (item :: read)
      | ']' :: rest => .ok ((item :: read).reverse, rest)
      | _ => .error .malformed

/-- The entries of an object from one of them to the closing brace, put after those in `read`. -/
def readEntries (fuel : Nat) (cs : List Char) (read : List (Value × Value)) : Read (List (Value × Value)) :=
  match fuel with
  | 0 => .error .malformed
  | fuel + 1 =>
    match cs with
    | '"' :: rest =>
      match readText rest with
      | .error e => .error e
      | .ok (name, rest) =>
        match skipBlanks rest with
        | ':' :: rest =>
          match readValue fuel (skipBlanks rest) with
          | .error e => .error e
          | .ok (value, rest) =>
            let read := Value.put read (.text name) value
            match skipBlanks rest with
            | ',' :: rest => readEntries fuel (skipBlanks rest) read
            | '}' :: rest => .ok (read, rest)
            | _ => .error .malformed
        | _ => .error .malformed
    | _ => .error .malformed

end

/-- The value that a JSON text writes. -/
def read (s : String) : Except ReadError Value :=
  match readValue (s.length + 1) (skipBlanks s.toList) with
  | .error e => .error e
  | .ok (value, rest) => if (skipBlanks rest).isEmpty then .ok value else .error .malformed

end CrudQueries.Data.Json
