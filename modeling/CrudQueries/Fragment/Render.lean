/-
  CrudQueries.Fragment.Render — the companion text of a marked type.

  A fragment declares twelve constants: the five joins as quoted texts and the seven statements
  as interpolated texts over them. In Python it is a mixin class, with the table's name written
  into the statements; in C# it is a partial class, and the statements refer to the type's own
  `TableName`. A type without fields has no fragment. A Python fragment needs a table.
-/

import CrudQueries.Data.Entries
import CrudQueries.Fragment.Marker
import CrudQueries.Fragment.Path
import CrudQueries.Query.Statement

namespace CrudQueries.Fragment

open Query

/-- Why a type has no fragment although it has fields. -/
inductive RenderError where
  | unresolvedTable (typeName : String)
  deriving DecidableEq, Repr

def RenderError.message : RenderError → String
  | .unresolvedTable typeName =>
    "Type '" ++ typeName ++ "' has no resolvable " ++ tableMember ++ " string constant."

/-- The name of a type's mixin class. -/
def mixinName (settings : Settings) (e : Entity) : String := e.typeName ++ settings.mixinSuffix

/-- The partial class of a type. -/
def partialClass (settings : Settings) (e : Entity) : String :=
  let joins := (Joins.of e.fields).constants.map fun (name, value) =>
    "private const string " ++ name ++ " = " ++ Text.Quoted.quote value ++ ";"
  let statements := (interpolatedStatements (Text.Quoted.placeholder tableMember)).map fun (name, body) =>
    "private const string " ++ name ++ " = $" ++ Text.Quoted.quote body ++ ";"
  let block := ["partial class " ++ e.typeName, "\x7b"]
    ++ Text.indentLines (joins ++ [""] ++ statements) ++ ["\x7d"]
  Text.endLines ([header .csharp, "namespace " ++ settings.namespaceName, "\x7b"]
    ++ Text.indentLines block ++ ["\x7d"])

/-- The mixin class of a type over `table`. -/
def mixin (settings : Settings) (e : Entity) (table : String) : String :=
  let name := mixinName settings e
  let joins := (Joins.of e.fields).constants.map fun (constant, value) =>
    constant ++ " = " ++ Text.Quoted.quote value
  let statements := (interpolatedStatements (Text.Quoted.literalBraces table)).map fun (constant, body) =>
    constant ++ " = f" ++ Text.Quoted.quote body
  let summary := "\"\"\"Query constants for ``" ++ e.typeName ++ "`` ("
    ++ ", ".intercalate e.fields ++ ").\"\"\""
  let body := [summary, ""] ++ joins ++ [""] ++ statements
  Text.endLines ([
    header .python,
    "\"\"\"CRUD queries for ``" ++ e.typeName ++ "`` on table ``" ++ table ++ "``.\"\"\"",
    "",
    "__all__ = [\"" ++ name ++ "\"]",
    "",
    "",
    "class " ++ name ++ ":"] ++ Text.indentLines body)

/-- The table of a type, if it is known and not empty. -/
def knownTable? (e : Entity) : Option String := e.table.filter fun t => !t.isEmpty

/-- The fragment of a type; nothing for a type without fields. -/
def render (settings : Settings) (e : Entity) : Except RenderError (Option String) :=
  if e.fields.isEmpty then .ok none
  else
    match settings.language with
    | .csharp => .ok (some (partialClass settings e))
    | .python =>
      match knownTable? e with
      | some table => .ok (some (mixin settings e table))
      | none => .error (.unresolvedTable e.typeName)

/-- The fragment of a type with its path; nothing for a type without fields. -/
def fileOf (settings : Settings) (e : Entity) : Except RenderError (List (String × String)) :=
  (render settings e).map fun
    | some text => [(path settings e, text)]
    | none => []

/-- The marker declaration and the fragments of all types, by path. A type that has no fragment
  although it has fields stops the rendering. -/
def renderAll (settings : Settings) (entities : List Entity) : Except RenderError (List (String × String)) :=
  entities.foldlM (fun files e => (fileOf settings e).map (Data.Entries.putAll files))
    [(markerPath settings, markerText settings)]

end CrudQueries.Fragment
