/-
  CrudQueries.Source.Token — the tokens of Python source.
-/

namespace CrudQueries.Source

/-- A text or bytes literal as it is written: its kind and what stands between the quotes. -/
structure Literal where
  isBytes : Bool
  isRaw : Bool
  isFormatted : Bool
  body : List Char
  deriving DecidableEq, Repr

inductive Lexeme where
  | name (s : String)
  | keyword (s : String)
  | number (imaginary : Bool)
  | literal (l : Literal)
  | symbol (s : String)
  | lineEnd
  | indent
  | dedent
  | finish
  deriving DecidableEq, Repr

/-- A token with the line on which it begins. -/
structure Token where
  lexeme : Lexeme
  line : Nat
  deriving DecidableEq, Repr

end CrudQueries.Source
