/-
  CrudQueries.Record.Numeral — whole numbers and truth values written as text.

  A whole number is written in ASCII digits, with blanks around it, a sign, leading zeros,
  single underscores between digits and a tail of zeros after a point. A truth value is one of
  a dozen words, capitals and small letters alike.
-/

import CrudQueries.Text.Blank
import CrudQueries.Text.Figures

namespace CrudQueries.Record.Numeral

open CrudQueries.Text

/-- White space by the Unicode property alone. -/
def isSpace (c : Char) : Bool := isBlank c && !(0x1C ≤ c.toNat && c.toNat ≤ 0x1F)

def trim (cs : List Char) : List Char :=
  ((cs.dropWhile isSpace).reverse.dropWhile isSpace).reverse

/-- The characters from the first digit that is not a leading zero; the last character of a
  numeral of zeros only, and a zero before a point, stay. `last` is the character before. -/
def dropZeros (last : Char) : List Char → Option (List Char)
  | [] => some [last]
  | '.' :: rest => some (last :: '.' :: rest)
  | c :: rest =>
    if c == '0' || c == '_' then dropZeros c rest
    else if isDigit c then some (c :: rest)
    else none

/-- A numeral without its leading zeros; one with a minus sign stays as it is. -/
def withoutZeros : List Char → Option (List Char)
  | '0' :: rest => dropZeros '0' rest
  | c :: rest => if isDigit c || c == '-' then some (c :: rest) else none
  | [] => none

/-- A numeral without a tail of zeros after a point. -/
def withoutTail (cs : List Char) : Option (List Char) :=
  match cs.dropWhile (· != '.') with
  | [] => some cs
  | _ :: tail => if tail.all (· == '0') then some (cs.takeWhile (· != '.')) else none

/-- Do two underscores stand side by side? -/
def hasDoubleUnderscore : List Char → Bool
  | '_' :: '_' :: _ => true
  | _ :: rest => hasDoubleUnderscore rest
  | [] => false

/-- A numeral without the underscores between its digits. -/
def withoutUnderscores (cs : List Char) : Option (List Char) :=
  if cs.head? == some '_' || cs.getLast? == some '_' || hasDoubleUnderscore cs then none
  else some (cs.filter (· != '_'))

/-- The number of plain digits with an optional minus sign. -/
def plain : List Char → Option Int
  | '-' :: digits => (natural digits).map fun n => -(n : Int)
  | digits => (natural digits).map fun n => (n : Int)
where
  natural (digits : List Char) : Option Nat :=
    if digits.isEmpty || !digits.all isDigit then none
    else some (digitsValue digits)

/-- The number that a text writes, if it writes one. -/
def whole? (s : String) : Option Int :=
  let cs := trim s.toList
  let cs := match cs with
    | '+' :: rest => if rest.head? == some '-' then [] else rest
    | cs => cs
  (((withoutZeros cs).bind withoutTail).bind withoutUnderscores).bind plain

/-- The longest numeral that is read. -/
def lengthLimit : Nat := 4300

/-- The truth value that a word names. -/
def truth? (s : String) : Option Bool :=
  let word := String.ofList (s.toList.map lowerLetter)
  if ["1", "t", "y", "on", "yes", "true"].contains word then some true
  else if ["0", "f", "n", "no", "off", "false"].contains word then some false
  else none

example : whole? " 007 " = some 7 := by decide +kernel
example : whole? "1_0.0" = some 10 := by decide +kernel
example : whole? "_1" = none := by decide +kernel

end CrudQueries.Record.Numeral
