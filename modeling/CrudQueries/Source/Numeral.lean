/-
  CrudQueries.Source.Numeral — number literals.

  Digits may be parted by single underscores. A literal may be followed at once by one of the
  words that can come after a value, and by no other character of a name. A whole number has
  at most 4300 decimal digits, and one that is not zero does not begin with a zero.
-/

import CrudQueries.Text.Words

namespace CrudQueries.Source.Numeral

open CrudQueries.Text (isDigit isAlphanumeric)

def isHexDigit (c : Char) : Bool :=
  isDigit c || ('a' ≤ c && c ≤ 'f') || ('A' ≤ c && c ≤ 'F')

def isOctalDigit (c : Char) : Bool := '0' ≤ c && c ≤ '7'

def isBinaryDigit (c : Char) : Bool := c == '0' || c == '1'

/-- May `c` be part of a name, as far as its code point shows? -/
def mayContinueName (c : Char) : Bool := isAlphanumeric c || c == '_' || 128 ≤ c.toNat

/-- What follows the remaining digits of a run; an underscore must have a digit after it. -/
def digits? (isOne : Char → Bool) : List Char → Option (List Char)
  | [] => some []
  | ['_'] => none
  | '_' :: c :: rest => if isOne c then digits? isOne rest else none
  | c :: rest => if isOne c then digits? isOne rest else some (c :: rest)

/-- What follows a run of at least one digit, which an underscore may precede. -/
def based? (isOne : Char → Bool) : List Char → Option (List Char)
  | '_' :: c :: rest => if isOne c then digits? isOne rest else none
  | c :: rest => if isOne c then digits? isOne rest else none
  | [] => none

/-- May a number end here? -/
def endsHere : List Char → Bool
  | 'a' :: 'n' :: 'd' :: _ => true
  | 'e' :: 'l' :: 's' :: 'e' :: _ => true
  | 'f' :: 'o' :: 'r' :: _ => true
  | 'i' :: 'f' :: _ => true
  | 'i' :: 'n' :: _ => true
  | 'i' :: 's' :: _ => true
  | 'n' :: 'o' :: 't' :: _ => true
  | 'o' :: 'r' :: _ => true
  | c :: _ => !mayContinueName c
  | [] => true

/-- The rest, if a number may end before it. -/
def ended? (rest : List Char) : Option (List Char) := if endsHere rest then some rest else none

/-- What follows the mark of an imaginary number, if it is there, and whether it is. -/
def imaginary? : List Char → Option (Bool × List Char)
  | 'j' :: rest => (ended? rest).map (true, ·)
  | 'J' :: rest => (ended? rest).map (true, ·)
  | rest => (ended? rest).map (false, ·)

/-- What follows the exponent, if there is one, and whether the number is imaginary. -/
def exponent? (cs : List Char) : Option (Bool × List Char) :=
  match cs with
  | e :: rest =>
    if e == 'e' || e == 'E' then
      match rest with
      | sign :: c :: after =>
        if (sign == '+' || sign == '-') then
          if isDigit c then (digits? isDigit after).bind imaginary? else none
        else if isDigit sign then (digits? isDigit (c :: after)).bind imaginary?
        else (ended? cs).map (false, ·)
      | [c] => if isDigit c then some (false, []) else if c == '+' || c == '-' then none else (ended? cs).map (false, ·)
      | [] => (ended? cs).map (false, ·)
    else imaginary? cs
  | [] => some (false, [])

/-- What follows the digits after a point, and whether the number is imaginary. -/
def fraction? (cs : List Char) : Option (Bool × List Char) :=
  match cs with
  | c :: rest => if isDigit c then (digits? isDigit rest).bind exponent? else exponent? cs
  | [] => exponent? cs

/-- The most decimal digits of a whole number. -/
def digitLimit : Nat := 4300

/-- How many digits `whole` has before `rest`. -/
def countDigits (whole rest : List Char) : Nat :=
  ((whole.take (whole.length - rest.length)).filter isDigit).length

/-- A number that begins with a digit other than zero. -/
def decimal? (cs : List Char) : Option (Bool × List Char) := do
  let rest ← digits? isDigit (cs.drop 1)
  match rest with
  | '.' :: after => fraction? after
  | c :: _ =>
    if c == 'e' || c == 'E' || c == 'j' || c == 'J' then exponent? rest
    else if countDigits cs rest > digitLimit then none
    else imaginary? rest
  | [] => if countDigits cs rest > digitLimit then none else some (false, [])

/-- The rest after zeros with single underscores between them. -/
def zeros? : List Char → Option (List Char)
  | '_' :: c :: rest => if c == '0' then zeros? rest else if isDigit c then some (c :: rest) else none
  | ['_'] => none
  | '0' :: rest => zeros? rest
  | rest => some rest

/-- A number that begins with a zero, after that zero. -/
def afterZero? (cs : List Char) : Option (Bool × List Char) :=
  match cs with
  | 'x' :: rest | 'X' :: rest => ((based? isHexDigit rest).bind ended?).map (false, ·)
  | 'o' :: rest | 'O' :: rest => (octal rest).map (false, ·)
  | 'b' :: rest | 'B' :: rest => (binary rest).map (false, ·)
  | _ => do
    let rest ← zeros? cs
    let nonzero := match rest with
      | c :: _ => isDigit c
      | [] => false
    let rest ← if nonzero then digits? isDigit rest else some rest
    match rest with
    | '.' :: after => fraction? after
    | c :: _ =>
      if c == 'e' || c == 'E' || c == 'j' || c == 'J' then exponent? rest
      else if nonzero then none
      else imaginary? rest
    | [] => if nonzero then none else some (false, [])
where
  octal (cs : List Char) : Option (List Char) :=
    (based? isOctalDigit cs).bind fun rest =>
      if (rest.head?.map isDigit).getD false then none else ended? rest
  binary (cs : List Char) : Option (List Char) :=
    (based? isBinaryDigit cs).bind fun rest =>
      if (rest.head?.map isDigit).getD false then none else ended? rest

/-- The number at the head of the text: whether it is imaginary, and what follows. The text
  begins with a digit, or with a point and a digit. -/
def read? : List Char → Option (Bool × List Char)
  | '0' :: rest => afterZero? rest
  | '.' :: rest => fraction? rest
  | cs => decimal? cs

end CrudQueries.Source.Numeral
