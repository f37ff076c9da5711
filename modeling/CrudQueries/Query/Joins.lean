/-
  CrudQueries.Query.Joins — the five texts that a field list is joined into.

  Each join writes every field once, in order, with commas between: the column itself, its
  parameter `@f`, the assignment of the parameter to the column, the value that keeps the
  stored column when the parameter is null, and the assignment of that value.
-/

namespace CrudQueries.Query

/-- The ways to join a field list. -/
inductive Join where
  | columns
  | parameters
  | assignments
  | keepingAssignments
  | keepingValues
  deriving DecidableEq, Repr

/-- The joins in the order in which they are declared. -/
def Join.all : List Join := [.columns, .parameters, .assignments, .keepingAssignments, .keepingValues]

/-- The name of the constant that holds a join. -/
def Join.constant : Join → String
  | .columns => "CommaSeparated"
  | .parameters => "ParametersCommaSeparated"
  | .assignments => "ParametersAssignment"
  | .keepingAssignments => "CoalesceParametersAssignment"
  | .keepingValues => "CoalesceValues"

/-- The parameter of a column. -/
def parameter (field : String) : String := "@" ++ field

/-- The parameter of a column, or what the column holds when the parameter is null. -/
def keepingValue (field : String) : String := "COALESCE(" ++ parameter field ++ "," ++ field ++ ")"

/-- What one field contributes to a join. -/
def Join.segment (join : Join) (field : String) : String :=
  match join with
  | .columns => field
  | .parameters => parameter field
  | .assignments => field ++ "=" ++ parameter field
  | .keepingAssignments => field ++ "=" ++ keepingValue field
  | .keepingValues => keepingValue field

/-- The join of a field list. -/
def Join.text (join : Join) (fields : List String) : String :=
  ",".intercalate (fields.map join.segment)

/-- The five joins of one field list. -/
structure Joins where
  columns : String
  parameters : String
  assignments : String
  keepingAssignments : String
  keepingValues : String
  deriving DecidableEq, Repr

namespace Joins

/-- All joins of `fields`. -/
def of (fields : List String) : Joins where
  columns := Join.columns.text fields
  parameters := Join.parameters.text fields
  assignments := Join.assignments.text fields
  keepingAssignments := Join.keepingAssignments.text fields
  keepingValues := Join.keepingValues.text fields

def get (joins : Joins) : Join → String
  | .columns => joins.columns
  | .parameters => joins.parameters
  | .assignments => joins.assignments
  | .keepingAssignments => joins.keepingAssignments
  | .keepingValues => joins.keepingValues

/-- The constants of the joins with their values, in order. -/
def constants (joins : Joins) : List (String × String) :=
  Join.all.map fun join => (join.constant, joins.get join)

theorem get_of (fields : List String) (join : Join) : (of fields).get join = join.text fields := by
  cases join <;> rfl

end Joins

end CrudQueries.Query
