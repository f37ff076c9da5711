/-
  CrudQueries.Text.Shown — the display of a text in messages.

  A shown text stands between single quotes, or between double quotes when it holds a single
  quote and no double quote. Backslash, the quote in use and the usual control characters
  have a short escape; any other unprintable character is given by its code point in the
  shortest of the forms with two, four and eight digits.
-/

import CrudQueries.Text.Printable

namespace CrudQueries.Text

/-- `n` in lower-case hexadecimal with at least `width` digits. -/
def hexDigits (width : Nat) (n : Nat) : List Char :=
  let digits := Nat.toDigits 16 n
  List.replicate (width - digits.length) '0' ++ digits

/-- One character inside a display between `quote`s. -/
def showChar (quote : Char) (c : Char) : List Char :=
  if c == quote || c == '\\' then ['\\', c]
  else if c == '\n' then ['\\', 'n']
  else if c == '\r' then ['\\', 'r']
  else if c == '\t' then ['\\', 't']
  else if isPrintable c then [c]
  else if c.toNat < 0x100 then '\\' :: 'x' :: hexDigits 2 c.toNat
  else if c.toNat < 0x10000 then '\\' :: 'u' :: hexDigits 4 c.toNat
  else '\\' :: 'U' :: hexDigits 8 c.toNat

/-- The quote that the display of a text uses. -/
def displayQuote (cs : List Char) : Char :=
  if cs.contains '\'' && !cs.contains '"' then '"' else '\''

/-- The display of a text. -/
def shown (s : String) : String :=
  let quote := displayQuote s.toList
  String.ofList (quote :: s.toList.flatMap (showChar quote) ++ [quote])

end CrudQueries.Text
