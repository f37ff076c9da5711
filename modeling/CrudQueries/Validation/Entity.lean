/-
  CrudQueries.Validation.Entity — is a marked type's SQL well formed?

  The checks look at the type's name and at how often it is marked, at its field list, and at
  its table. A type without fields has no SQL, so its table does not matter and its empty list
  is only noted. A malformed position is an error, or a warning when such positions are to be
  coerced; it is left out of all other checks of the list. Field names that the statements
  manage themselves are refused whatever the case of their letters.
-/

import CrudQueries.Entity
import CrudQueries.Query.Statement
import CrudQueries.Settings
import CrudQueries.Source.Keyword
import CrudQueries.Validation.Diagnostic

namespace CrudQueries.Validation

open CrudQueries.Data (Value)

/-- The context of a diagnostic about the entity at `index`. -/
def about (index : Nat) (e : Entity) (more : List (String × Value) := []) : List (Value × Value) :=
  [(.text "index", .int index), (.text "type", .text e.typeName)]
    ++ more.map fun (k, v) => (.text k, v)

/-! ## Type names -/

/-- The type's name must be an identifier and no keyword, and the type marked only once. -/
def checkTypeName (index : Nat) (e : Entity) (settings : Settings) : Diagnostics :=
  let context := about index e
  let name :=
    if !Text.isIdentifier e.typeName then
      [⟨.error, "INVALID_TYPE_NAME",
        "Type name '" ++ e.typeName ++ "' at " ++ e.location ++ " is not a valid identifier.", context⟩]
    else if Source.isKeyword e.typeName then
      [⟨.error, "INVALID_TYPE_NAME",
        "Type name '" ++ e.typeName ++ "' at " ++ e.location ++ " is a Python keyword.", context⟩]
    else []
  let markers :=
    if e.markerCount > 1 then
      [⟨.error, "MULTIPLE_MARKERS",
        settings.markerName ++ " is applied " ++ toString e.markerCount ++ " times to '" ++ e.typeName
          ++ "' at " ++ e.location ++ "; it is not repeatable.", context⟩]
    else []
  name ++ markers

/-! ## Field lists -/

/-- Words of SQL that would need quotes as column names. -/
def reservedWords : List String := [
  "select", "insert", "update", "delete", "drop", "create", "alter",
  "table", "column", "index", "from", "where", "join", "inner",
  "outer", "left", "right", "on", "and", "or", "not", "null",
  "true", "false", "in", "between", "like", "is", "as", "order",
  "by", "group", "having", "limit", "offset", "union", "all",
  "distinct", "case", "when", "then", "else", "end", "exists",
  "primary", "foreign", "key", "references", "constraint", "check",
  "default", "unique", "cascade", "set", "values", "into",
  "grant", "revoke", "begin", "commit", "rollback", "transaction",
  "user", "role", "schema", "database", "trigger", "procedure",
  "function", "view", "sequence", "returning", "with", "recursive"]

/-- A name in small letters. -/
def inLowerCase (name : String) : String := String.ofList (name.toList.map Text.lowerLetter)

/-- Does a statement manage a column of this name itself? -/
def isManaged (name : String) : Bool := Query.managedColumns.contains (inLowerCase name)

/-- The malformed positions, each once, in ascending order. -/
def malformedPositions (e : Entity) : List Int :=
  (e.malformed.eraseDups).mergeSort (· ≤ ·)

/-- The fields at positions that are not malformed. -/
def wellFormedFields (e : Entity) : List String :=
  (e.fields.zipIdx.filter fun (_, i) => !e.malformed.contains (i : Int)).map (·.1)

/-- The diagnostic of a malformed position. -/
def malformedField (index : Nat) (e : Entity) (settings : Settings) (position : Int) : Diagnostic :=
  let context := about index e [("position", .int position)]
  let place := "Argument " ++ toString position ++ " of " ++ settings.markerName ++ " on '" ++ e.typeName ++ "'"
  if settings.coerceMalformed then
    ⟨.warning, "MALFORMED_FIELD", place ++ " is not a string; coerced to ''.", context⟩
  else ⟨.error, "MALFORMED_FIELD", place ++ " at " ++ e.location ++ " is not a string.", context⟩

/-- The names that stand more than once, each at its first place, with their counts. -/
def repeated (names : List String) : List (String × Nat) :=
  (names.eraseDups.map fun name => (name, names.count name)).filter fun (_, n) => n > 1

def duplicateField (index : Nat) (e : Entity) (name : String) (count : Nat) : Diagnostic :=
  ⟨.error, "DUPLICATE_FIELD_NAME",
    "Field '" ++ name ++ "' is listed " ++ toString count ++ " times on '" ++ e.typeName ++ "'.",
    about index e [("field", .text name)]⟩

/-- The diagnostics of one field name. -/
def checkFieldName (index : Nat) (e : Entity) (name : String) : Diagnostics :=
  let context := about index e [("field", .text name)]
  let place := "Field '" ++ name ++ "' on '" ++ e.typeName ++ "'"
  if !Text.isIdentifier name then
    [⟨.error, "INVALID_FIELD_NAME", place ++ " is not a valid identifier.", context⟩]
  else
    (if isManaged name then
      [⟨.error, "RESERVED_COLUMN_NAME", place ++ " collides with a column every statement manages ("
        ++ ", ".intercalate Query.managedColumns ++ ").", context⟩]
    else [])
    ++ (if reservedWords.contains (inLowerCase name) then
      [⟨.warning, "FIELD_NAME_SQL_RESERVED",
        place ++ " is a SQL reserved word and is emitted unquoted.", context⟩]
    else [])

/-- All checks of a field list. -/
def checkFields (index : Nat) (e : Entity) (settings : Settings) : Diagnostics :=
  if e.fields.isEmpty then
    [⟨.info, "EMPTY_FIELD_LIST", "'" ++ e.typeName ++ "' declares no fields; nothing is generated.",
      about index e⟩]
  else
    let names := wellFormedFields e
    (malformedPositions e).map (malformedField index e settings)
      ++ (repeated names).map (fun (name, count) => duplicateField index e name count)
      ++ names.flatMap (checkFieldName index e)

/-! ## Tables -/

/-- Characters that would break a text constant. -/
def isUnsafeInTable (c : Char) : Bool :=
  c == '"' || c == '\\' || c == '\n' || c == '\r' || c == '{' || c == '}'

/-- A table must be known for a Python fragment, and fit into a text constant. -/
def checkTable (index : Nat) (e : Entity) (settings : Settings) : Diagnostics :=
  if e.fields.isEmpty then []
  else
    let table := e.table.getD ""
    if table.isEmpty then
      match settings.language with
      | .python =>
        [⟨.error, "UNRESOLVED_TABLE_NAME",
          "'" ++ e.typeName ++ "' at " ++ e.location ++ " has no string-literal TableName attribute.",
          about index e⟩]
      | .csharp =>
        [⟨.warning, "UNRESOLVED_TABLE_NAME",
          "'" ++ e.typeName ++ "' has no TableName value in the input; the generated code relies on "
            ++ "the type defining it.",
          about index e⟩]
    else
      let context := about index e [("table", .text table)]
      let place := "Table name " ++ Text.shown table ++ " of '" ++ e.typeName ++ "'"
      if table.toList.any isUnsafeInTable then
        [⟨.error, "INVALID_TABLE_NAME",
          place ++ " contains characters that cannot be embedded in a string constant.", context⟩]
      else if !Text.isDottedIdentifier table then
        [⟨.warning, "TABLE_NAME_NOT_IDENTIFIER", place ++ " is emitted unquoted.", context⟩]
      else []

/-- All checks of one entity. -/
def checkEntity (index : Nat) (e : Entity) (settings : Settings) : Diagnostics :=
  checkTypeName index e settings ++ checkFields index e settings ++ checkTable index e settings

end CrudQueries.Validation
