/-
  CrudQueries.Query.Statement — the seven statements over one table.

  Every table has the columns `id`, `created`, `modified` and `deleted` beside its fields. A
  row with a `deleted` time is not live; `modified` is the version that an update compares
  with the parameter `@Version`, unless that is null. A statement is written from joins and a
  table reference. Given the joins of a field list and a table name it is the SQL itself;
  given placeholders (`placeholderJoins`) it is the body of an interpolated text that refers to
  the constants of the joins, so the form of each statement is stated once.
-/

import CrudQueries.Query.Joins
import CrudQueries.Text.Quoted

namespace CrudQueries.Query

/-- The columns that the statements manage themselves. -/
def managedColumns : List String := ["id", "created", "modified", "deleted"]

/-- The columns that note when a row was made, changed and removed. -/
def auditColumns : String := "created,modified,deleted"

/-- Holds if the caller has seen the row's last version, or does not say. -/
def versionGuard : String := "(@Version IS NULL OR modified=@Version)"

/-! ## The forms -/

/-- A page of the live rows. -/
def selectPage (columns table : String) : String :=
  "SELECT id," ++ columns ++ "," ++ auditColumns ++ " FROM " ++ table
    ++ " WHERE deleted IS NULL LIMIT @Num OFFSET @Start"

/-- One live row. -/
def selectRow (columns table : String) : String :=
  "SELECT id," ++ columns ++ "," ++ auditColumns ++ " FROM " ++ table
    ++ " WHERE deleted IS NULL AND id=@Id"

/-- A new row, whose id is returned. -/
def insertRow (columns parameters table : String) : String :=
  "INSERT INTO " ++ table ++ " (" ++ columns ++ "," ++ auditColumns
    ++ ") VALUES (" ++ parameters ++ ",@Created,@Modified,@Deleted) RETURNING id"

/-- Every field of a live row. -/
def updateRow (assignments table : String) : String :=
  "UPDATE " ++ table ++ " SET " ++ assignments
    ++ ",modified=@Modified WHERE deleted IS NULL AND id=@Id AND " ++ versionGuard

/-- The fields of a live row whose parameters are not null, if that changes one of them. -/
def patchRow (keepingAssignments columns keepingValues table : String) : String :=
  "UPDATE " ++ table ++ " SET " ++ keepingAssignments
    ++ ",modified=@Modified WHERE deleted IS NULL AND id=@Id AND " ++ versionGuard
    ++ " AND (" ++ columns ++ ") IS DISTINCT FROM (" ++ keepingValues ++ ")"

/-- Marks a live row as removed. -/
def deleteRow (table : String) : String :=
  "UPDATE " ++ table ++ " SET deleted=@Now WHERE id=@Id AND deleted IS NULL"

/-- Brings a removed row back. -/
def undeleteRow (table : String) : String :=
  "UPDATE " ++ table ++ " SET deleted=NULL WHERE id=@Id AND deleted IS NOT NULL"

/-! ## The statements of a table -/

inductive Statement where
  | selectPage
  | selectRow
  | insert
  | update
  | patch
  | delete
  | undelete
  deriving DecidableEq, Repr

/-- The statements in the order in which they are declared. -/
def Statement.all : List Statement :=
  [.selectPage, .selectRow, .insert, .update, .patch, .delete, .undelete]

/-- The name of the constant that holds a statement. -/
def Statement.constant : Statement → String
  | .selectPage => "GetAllQuery"
  | .selectRow => "GetByIdQuery"
  | .insert => "InsertQuery"
  | .update => "UpdateQuery"
  | .patch => "PatchQuery"
  | .delete => "DeleteQuery"
  | .undelete => "UndeleteQuery"

/-- A statement over `table`, written from `joins`. -/
def Statement.text (statement : Statement) (joins : Joins) (table : String) : String :=
  match statement with
  | .selectPage => Query.selectPage joins.columns table
  | .selectRow => Query.selectRow joins.columns table
  | .insert => insertRow joins.columns joins.parameters table
  | .update => updateRow joins.assignments table
  | .patch => patchRow joins.keepingAssignments joins.columns joins.keepingValues table
  | .delete => deleteRow table
  | .undelete => undeleteRow table

/-- A placeholder for each join, naming its constant. -/
def placeholderJoins : Joins where
  columns := Text.Quoted.placeholder Join.columns.constant
  parameters := Text.Quoted.placeholder Join.parameters.constant
  assignments := Text.Quoted.placeholder Join.assignments.constant
  keepingAssignments := Text.Quoted.placeholder Join.keepingAssignments.constant
  keepingValues := Text.Quoted.placeholder Join.keepingValues.constant

/-- The statement constants as interpolated text over the join constants. -/
def interpolatedStatements (tableRef : String) : List (String × String) :=
  Statement.all.map fun s => (s.constant, s.text placeholderJoins tableRef)

end CrudQueries.Query
