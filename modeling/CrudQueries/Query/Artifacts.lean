/-
  CrudQueries.Query.Artifacts — the joins and statements of one type, written out in full.
-/

import CrudQueries.Query.Statement

namespace CrudQueries.Query

/-- The SQL of one type. -/
structure Artifacts where
  typeName : String
  table : String
  joins : Joins
  selectPage : String
  selectRow : String
  insert : String
  update : String
  patch : String
  delete : String
  undelete : String
  deriving DecidableEq, Repr

/-- A field list without fields has no SQL. -/
inductive ArtifactsError where
  | emptyFieldList (typeName : String)
  deriving DecidableEq, Repr

def ArtifactsError.message : ArtifactsError → String
  | .emptyFieldList typeName => "Type '" ++ typeName ++ "' has an empty field list."

namespace Artifacts

/-- The artifacts of a type over `table`. -/
def build (typeName : String) (fields : List String) (table : String) : Except ArtifactsError Artifacts :=
  if fields.isEmpty then .error (.emptyFieldList typeName)
  else
    let joins := Joins.of fields
    .ok {
      typeName, table, joins
      selectPage := Statement.selectPage.text joins table
      selectRow := Statement.selectRow.text joins table
      insert := Statement.insert.text joins table
      update := Statement.update.text joins table
      patch := Statement.patch.text joins table
      delete := Statement.delete.text joins table
      undelete := Statement.undelete.text joins table }

def statement (a : Artifacts) : Statement → String
  | .selectPage => a.selectPage
  | .selectRow => a.selectRow
  | .insert => a.insert
  | .update => a.update
  | .patch => a.patch
  | .delete => a.delete
  | .undelete => a.undelete

/-- The twelve constants with their values: joins first, then statements. -/
def constants (a : Artifacts) : List (String × String) :=
  a.joins.constants ++ Statement.all.map fun s => (s.constant, a.statement s)

end Artifacts

end CrudQueries.Query
