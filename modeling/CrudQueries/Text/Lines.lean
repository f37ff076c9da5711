/-
  CrudQueries.Text.Lines — counting, joining and indenting lines.
-/

import CrudQueries.Text.Blank

namespace CrudQueries.Text

/-- The number of lines of a text; a last line without its newline counts too. -/
def countLines (s : String) : Nat :=
  match s.toList.reverse with
  | [] => 0
  | last :: _ => s.toList.count '\n' + (if last == '\n' then 0 else 1)

/-- `level` steps of `size` spaces before each line that is not blank; a product below zero
  indents by nothing. -/
def indentLines (lines : List String) (level : Int := 1) (size : Int := 4) : List String :=
  let margin := "".pushn ' ' (level * size).toNat
  lines.map fun line => if isBlankText line then line else margin ++ line

/-- The lines with a newline between each two. -/
def joinLines (lines : List String) : String := "\n".intercalate lines

/-- Each line ended by a newline. -/
def endLines (lines : List String) : String := joinLines lines ++ "\n"

/-- Every line end, carriage return with or without line feed, as one line feed. -/
def normalNewlines : List Char → List Char
  | '\r' :: '\n' :: rest => '\n' :: normalNewlines rest
  | '\r' :: rest => '\n' :: normalNewlines rest
  | c :: rest => c :: normalNewlines rest
  | [] => []

end CrudQueries.Text
