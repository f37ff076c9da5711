/-
  CrudQueries.Text.Figures — digits and what they write, whole numbers in groups of three digits,
  and text padded to a width.
-/

import CrudQueries.Text.Words

namespace CrudQueries.Text

/-- The number that decimal digits write. -/
def digitsValue (cs : List Char) : Nat := cs.foldl (fun n c => n * 10 + (c.toNat - '0'.toNat)) 0

/-- The value of a hexadecimal digit. -/
def hexValue? (c : Char) : Option Nat :=
  if isDigit c then some (c.toNat - '0'.toNat)
  else if 'a' ≤ c && c ≤ 'f' then some (c.toNat - 'a'.toNat + 10)
  else if 'A' ≤ c && c ≤ 'F' then some (c.toNat - 'A'.toNat + 10)
  else none

/-- Digits given from the last to the first, with a comma after each third one. -/
def groupReversed : List Char → List Char
  | a :: b :: c :: d :: rest => a :: b :: c :: ',' :: groupReversed (d :: rest)
  | cs => cs

/-- A whole number with commas between the thousands. -/
def grouped (n : Int) : String :=
  let digits := String.ofList (groupReversed (toString n.natAbs).toList.reverse).reverse
  if n < 0 then "-" ++ digits else digits

/-- `s` with blanks after it up to `width` characters. -/
def padRight (width : Nat) (s : String) : String := s ++ "".pushn ' ' (width - s.length)

/-- `s` with blanks before it up to `width` characters. -/
def padLeft (width : Nat) (s : String) : String := "".pushn ' ' (width - s.length) ++ s

end CrudQueries.Text
