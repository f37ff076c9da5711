/-
  CrudQueries.Discovery.FieldValues — field names from the values given for them.

  A value that is no text becomes the empty text, and its position is noted, so that the list
  keeps its length and order.
-/

namespace CrudQueries.Discovery

/-- The names, with the empty text for what is missing. -/
def fieldNames (values : List (Option String)) : List String := values.map (·.getD "")

/-- The positions of what is missing, from `first` on. -/
def missingFrom (first : Nat) : List (Option String) → List Nat
  | [] => []
  | none :: rest => first :: missingFrom (first + 1) rest
  | some _ :: rest => missingFrom (first + 1) rest

/-- The positions of what is missing. -/
def missingPositions (values : List (Option String)) : List Nat := missingFrom 0 values

end CrudQueries.Discovery
