/-
  CrudQueries.Text.Quoted — text between double quotes, and braces in interpolated text.

  A quoted text writes a backslash before each backslash and each double quote; all else
  stands for itself. Interpolated text doubles the braces that are meant literally.
-/

namespace CrudQueries.Text.Quoted

/-- The body of the quoted form. -/
def escape : List Char → List Char
  | [] => []
  | '\\' :: rest => '\\' :: '\\' :: escape rest
  | '"' :: rest => '\\' :: '"' :: escape rest
  | c :: rest => c :: escape rest

/-- The quoted form of a text. -/
def quote (s : String) : String :=
  "\"" ++ String.ofList (escape s.toList) ++ "\""

/-- Each brace twice. -/
def doubleBraces : List Char → List Char
  | [] => []
  | '{' :: rest => '{' :: '{' :: doubleBraces rest
  | '}' :: rest => '}' :: '}' :: doubleBraces rest
  | c :: rest => c :: doubleBraces rest

/-- A text as a literal part of interpolated text. -/
def literalBraces (s : String) : String := String.ofList (doubleBraces s.toList)

/-- The place in interpolated text where the constant `name` is put in. -/
def placeholder (name : String) : String := "\x7b" ++ name ++ "\x7d"

end CrudQueries.Text.Quoted
