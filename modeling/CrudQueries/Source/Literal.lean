/-
  CrudQueries.Source.Literal — what text literals stand for.

  In a literal that is not raw, a backslash and the character after it stand for one character
  or, if they are no known escape, for themselves; a backslash before a newline joins the
  lines. A bytes literal holds ASCII characters only. A formatted literal alternates between
  literal text, in which braces are doubled, and fields in braces: an expression, an equals
  sign, a conversion and a format, which may hold fields again.
-/

import CrudQueries.Source.CharacterName
import CrudQueries.Source.Token
import CrudQueries.Text.Figures

namespace CrudQueries.Source.Literal

open CrudQueries.Text (hexValue?)

/-! ## Escapes -/

/-- The character of a one-letter escape. -/
def simpleEscape? : Char → Option Char
  | '\\' => some '\\'
  | '\'' => some '\''
  | '"' => some '"'
  | 'a' => some '\x07'
  | 'b' => some '\x08'
  | 'f' => some '\x0c'
  | 'n' => some '\n'
  | 'r' => some '\r'
  | 't' => some '\t'
  | 'v' => some '\x0b'
  | _ => none

def isOctal (c : Char) : Bool := '0' ≤ c && c ≤ '7'

/-- The value of digits in base eight. -/
def octalValue (cs : List Char) : Nat := cs.foldl (fun n c => n * 8 + (c.toNat - '0'.toNat)) 0

/-- The value of exactly `count` hexadecimal digits, and what follows them. -/
def hexNumber? (count : Nat) (cs : List Char) : Option (Nat × List Char) :=
  match count, cs with
  | 0, cs => some (0, cs)
  | _ + 1, [] => none
  | count + 1, c :: rest => do
    let d ← hexValue? c
    let (n, rest) ← hexNumber? count rest
    some (d * 16 ^ count + n, rest)

/-- The characters that the text after a backslash stands for, and what follows. -/
def escape? (cs : List Char) : Option (List Char × List Char) :=
  match cs with
  | [] => some (['\\'], [])
  | '\n' :: rest => some ([], rest)
  | 'x' :: rest => (hexNumber? 2 rest).map fun (n, rest) => ([Char.ofNat n], rest)
  | 'u' :: rest => (hexNumber? 4 rest).map fun (n, rest) => ([Char.ofNat n], rest)
  | 'U' :: rest =>
    (hexNumber? 8 rest).bind fun (n, rest) => if n < 0x110000 then some ([Char.ofNat n], rest) else none
  | 'N' :: '{' :: rest =>
    match rest.dropWhile (· != '}') with
    | _ :: after => (namedCharacter? (String.ofList (rest.takeWhile (· != '}')))).map fun c => ([c], after)
    | [] => none
  | 'N' :: _ => none
  | c :: rest =>
    match simpleEscape? c with
    | some e => some ([e], rest)
    | none =>
      if isOctal c then
        let digits := (cs.take 3).takeWhile isOctal
        some ([Char.ofNat (octalValue digits)], cs.drop digits.length)
      else some (['\\', c], rest)

/-- The characters that a literal stands for; `read` holds those before, last first. -/
def decodeFrom (fuel : Nat) (read : List Char) (cs : List Char) : Option (List Char) :=
  match fuel, cs with
  | 0, _ => none
  | _, [] => some read.reverse
  | fuel + 1, '\\' :: rest => do
    let (meant, rest) ← escape? rest
    decodeFrom fuel (meant.reverse ++ read) rest
  | fuel + 1, c :: rest => decodeFrom fuel (c :: read) rest

/-- The characters that a literal's body stands for. -/
def decode? (isRaw : Bool) (body : List Char) : Option (List Char) :=
  if isRaw then some body else decodeFrom (body.length + 1) [] body

/-- Is every escape for a byte complete? -/
def bytesEscapesFit : List Char → Bool
  | '\\' :: 'x' :: a :: b :: rest => (hexValue? a).isSome && (hexValue? b).isSome && bytesEscapesFit rest
  | '\\' :: 'x' :: _ => false
  | '\\' :: _ :: rest => bytesEscapesFit rest
  | _ :: rest => bytesEscapesFit rest
  | [] => true

/-- Is the body one of a bytes literal? -/
def isBytesBody (isRaw : Bool) (body : List Char) : Bool :=
  body.all (fun c => c.toNat < 128) && (isRaw || bytesEscapesFit body)

/-! ## Formatted literals -/

/-- What a brace means: itself, the end of the literal text, or a fault. -/
inductive Brace where
  | text
  | stop
  | fault
  deriving DecidableEq, Repr

/-- The meaning of the brace at the head of the text. In a format braces are not doubled, and a
  closing one ends the format. -/
def braceAt (nested : Bool) : List Char → Brace
  | a :: b :: _ => if nested then .stop else if a == b then .text else if a == '}' then .fault else .stop
  | [a] => if nested || a == '{' then .stop else .fault
  | [] => .stop

/-- The literal text up to the next field, or up to the end of a nested format, last character
  first; and what follows. -/
def plainText (fuel : Nat) (isRaw nested : Bool) (read : List Char) (cs : List Char) :
    Option (List Char × List Char) :=
  match fuel with
  | 0 => none
  | fuel + 1 =>
    match cs with
    | [] => some (read, [])
    | '\\' :: 'N' :: '{' :: rest =>
      if isRaw then plainText fuel isRaw nested ('N' :: '\\' :: read) ('{' :: rest)
      else
        let name := rest.takeWhile (· != '}')
        match rest.dropWhile (· != '}') with
        | _ :: after => plainText fuel isRaw nested ('}' :: name.reverse ++ '{' :: 'N' :: '\\' :: read) after
        | [] => none
    | '\\' :: c :: rest =>
      if isRaw || c == '{' || c == '}' then plainText fuel isRaw nested ('\\' :: read) (c :: rest)
      else plainText fuel isRaw nested (c :: '\\' :: read) rest
    | c :: rest =>
      if c == '{' || c == '}' then
        match braceAt nested (c :: rest) with
        | .text => plainText fuel isRaw nested (c :: read) (rest.drop 1)
        | .stop => some (read, c :: rest)
        | .fault => none
      else plainText fuel isRaw nested (c :: read) rest

/-- Where a field's expression is being read: outside of texts, or inside one with its quote. -/
inductive FieldMode where
  | code
  | short (quote : Char)
  | long (quote : Char)
  deriving DecidableEq, Repr

def closesBracket (opening closing : Char) : Bool :=
  (opening, closing) == ('(', ')') || (opening, closing) == ('[', ']') || (opening, closing) == ('{', '}')

/-- The expression of a field, last character first, up to the character that ends it, and the
  text from that character on. It holds no backslash and, outside of texts, no number sign. -/
def fieldExpression (fuel : Nat) (mode : FieldMode) (brackets read cs : List Char) :
    Option (List Char × List Char) :=
  match fuel, cs with
  | 0, _ => none
  | _, [] => none
  | fuel + 1, a :: rest =>
    if a == '\\' then none
    else
      match mode with
      | .short q => fieldExpression fuel (if a == q then .code else mode) brackets (a :: read) rest
      | .long q =>
        if a == q && [q, q].isPrefixOf rest then
          fieldExpression fuel .code brackets (a :: a :: a :: read) (rest.drop 2)
        else fieldExpression fuel mode brackets (a :: read) rest
      | .code =>
        if a == '\'' || a == '"' then
          if [a, a].isPrefixOf rest then
            fieldExpression fuel (.long a) brackets (a :: a :: a :: read) (rest.drop 2)
          else fieldExpression fuel (.short a) brackets (a :: read) rest
        else if a == '(' || a == '[' || a == '{' then
          if brackets.length ≥ 200 then none
          else fieldExpression fuel .code (a :: brackets) (a :: read) rest
        else if a == '#' then none
        else if brackets.isEmpty && ['=', '!', '<', '>'].contains a && rest.head? == some '=' then
          fieldExpression fuel .code brackets ('=' :: a :: read) (rest.drop 1)
        else if brackets.isEmpty && ['=', '!', ':', '}'].contains a then some (read, a :: rest)
        else if a == ')' || a == ']' || a == '}' then
          match brackets with
          | opening :: outer =>
            if closesBracket opening a then fieldExpression fuel .code outer (a :: read) rest else none
          | [] => none
        else fieldExpression fuel .code brackets (a :: read) rest

def isFieldBlank (c : Char) : Bool := c == ' ' || c == '\t' || c == '\n' || c == '\x0c'

/-- The text after the equals sign of a field, with the blanks that follow it. -/
def afterEquals : List Char → List Char
  | '=' :: rest => rest.dropWhile fun c => isFieldBlank c || c == '\x0b' || c == '\r'
  | cs => cs

/-- The text after a field's conversion, if there is one. -/
def afterConversion? : List Char → Option (List Char)
  | '!' :: c :: rest =>
    if (c == 's' || c == 'r' || c == 'a') && (rest.head? == some '}' || rest.head? == some ':') then some rest
    else none
  | '!' :: [] => none
  | cs => some cs

/-- The expressions of the fields of a formatted literal at nesting `depth`, and what follows;
  `none` if the literal is not well formed. -/
def fieldsFrom (fuel depth : Nat) (isRaw : Bool) (cs : List Char) : Option (List (List Char) × List Char) :=
  match fuel with
  | 0 => none
  | fuel + 1 => do
    let (plain, rest) ← plainText (cs.length + 1) isRaw (depth > 0) [] cs
    let _ ← decode? isRaw plain.reverse
    match rest with
    | '{' :: rest =>
      if depth ≥ 2 then none
      else do
        let (expression, rest) ← fieldExpression (rest.length + 1) .code [] [] rest
        if expression.all isFieldBlank then none
        let rest ← afterConversion? (afterEquals rest)
        let (inner, rest) ← match rest with
          | ':' :: spec => fieldsFrom fuel (depth + 1) isRaw spec
          | rest => some ([], rest)
        match rest with
        | '}' :: rest => do
          let (more, rest) ← fieldsFrom fuel depth isRaw rest
          some (expression.reverse :: inner ++ more, rest)
        | _ => none
    | rest => some ([], rest)

/-- The expressions of all fields of a formatted literal, from its body. -/
def fields? (isRaw : Bool) (body : List Char) : Option (List (List Char)) :=
  match fieldsFrom (body.length + 1) 0 isRaw body with
  | some (fields, []) => some fields
  | _ => none

end CrudQueries.Source.Literal
