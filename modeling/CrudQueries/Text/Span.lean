/-
  CrudQueries.Text.Span — runs of code points, from which tables of character classes are made.
-/

namespace CrudQueries.Text

/-- The code points from `first` to `last`, both included. -/
structure Span where
  first : Nat
  last : Nat

/-- Is the code point of `c` in the run? -/
def Span.has (s : Span) (c : Char) : Bool :=
  s.first ≤ c.toNat && c.toNat ≤ s.last

/-- Is the code point of `c` in one of the runs? -/
def Span.anyHas (spans : List Span) (c : Char) : Bool :=
  spans.any (·.has c)

end CrudQueries.Text
