/-
  CrudQueries.Record.Instance — the records of the library, as a caller holds them.

  A record is made from a mapping and can then be changed field by field, each time with the
  field's own check; a change that is refused leaves the record as it was. Entities, joins and
  artifacts are never changed. A generated file's line count and size are always those of its
  content: they are computed again after every change, also after one to themselves.
-/

import CrudQueries.Entity
import CrudQueries.Query.Artifacts
import CrudQueries.Settings
import CrudQueries.Text.Lines
import CrudQueries.Text.Utf8

namespace CrudQueries

open CrudQueries.Data (Value)
open Record

/-! ## The remaining records -/

/-- Entities that are listed in a file instead of being found in sources. -/
structure Manifest where
  entities : List Entity := []
  sourceFile : Option String := none
  deriving DecidableEq, Repr

/-- A file of the output with its metrics. -/
structure GeneratedFile where
  path : String
  content : String
  typeName : Option String := none
  lineCount : Nat := 0
  sizeBytes : Nat := 0
  deriving DecidableEq, Repr

/-- The file with the metrics of its content. -/
def GeneratedFile.measured (f : GeneratedFile) : GeneratedFile :=
  { f with lineCount := Text.countLines f.content, sizeBytes := f.content.utf8ByteSize }

/-- A file of the given path and content. -/
def GeneratedFile.of (path content : String) : GeneratedFile := GeneratedFile.measured { path, content }

namespace Manifest

def model : String := "ManifestDefinition"

def checkEntities : Check (List Entity) := Check.sequence .list Entity.check

def ofEntries : List (Value × Value) → Checked Manifest :=
  closed (["entities", "source_file"].map FieldName.of) fun entries =>
    Manifest.mk
      <$> optional (.of "entities") [] checkEntities entries
      <*> optional (.of "source_file") none (Check.orNull Check.text) entries

def check : Check Manifest := Check.record model ofEntries

/-- The manifest with one field changed; `none` if there is no field of that name. -/
def assign? (m : Manifest) (name : String) (v : Value) : Option (Checked Manifest) :=
  match name with
  | "entities" => some ((checkEntities v).map fun x => { m with entities := x })
  | "source_file" => some ((Check.orNull Check.text v).map fun x => { m with sourceFile := x })
  | _ => none

end Manifest

namespace GeneratedFile

def model : String := "GeneratedFile"

def ofEntries (entries : List (Value × Value)) : Checked GeneratedFile :=
  (closed (["path", "content", "type_name", "line_count", "size_bytes"].map FieldName.of) (fun entries =>
    GeneratedFile.mk
      <$> required (.of "path") Check.filledText entries
      <*> required (.of "content") Check.text entries
      <*> optional (.of "type_name") none (Check.orNull Check.text) entries
      <*> optional (.of "line_count") 0 (Check.wholeFrom 0) entries
      <*> optional (.of "size_bytes") 0 (Check.wholeFrom 0) entries) entries).map measured

def check : Check GeneratedFile := Check.record model ofEntries

/-- The file with one field changed; `none` if there is no field of that name. -/
def assign? (f : GeneratedFile) (name : String) (v : Value) : Option (Checked GeneratedFile) :=
  let changed : Option (Checked GeneratedFile) := match name with
    | "path" => some ((Check.filledText v).map fun x => { f with path := x })
    | "content" => some ((Check.text v).map fun x => { f with content := x })
    | "type_name" => some ((Check.orNull Check.text v).map fun x => { f with typeName := x })
    | "line_count" => some ((Check.wholeFrom 0 v).map fun x => { f with lineCount := x })
    | "size_bytes" => some ((Check.wholeFrom 0 v).map fun x => { f with sizeBytes := x })
    | _ => none
  changed.map fun c => c.map measured

end GeneratedFile

namespace Query

def Joins.model : String := "JoinSet"

def Joins.ofEntries : List (Value × Value) → Checked Joins :=
  let names := ["comma_separated", "parameters_comma_separated", "parameters_assignment",
    "coalesce_parameters_assignment", "coalesce_values"]
  closed (names.map FieldName.of) fun entries =>
    Joins.mk
      <$> required (.of "comma_separated") Check.text entries
      <*> required (.of "parameters_comma_separated") Check.text entries
      <*> required (.of "parameters_assignment") Check.text entries
      <*> required (.of "coalesce_parameters_assignment") Check.text entries
      <*> required (.of "coalesce_values") Check.text entries

def Joins.check : Check Joins := Check.record Joins.model Joins.ofEntries

def Artifacts.model : String := "GeneratedArtifactSet"

def Artifacts.ofEntries : List (Value × Value) → Checked Artifacts :=
  let names := ["type_name", "table_name", "joins", "get_all_query", "get_by_id_query", "insert_query",
    "update_query", "patch_query", "delete_query", "undelete_query"]
  closed (names.map FieldName.of) fun entries =>
    Artifacts.mk
      <$> required (.of "type_name") Check.text entries
      <*> required (.of "table_name") Check.text entries
      <*> required (.of "joins") Joins.check entries
      <*> required (.of "get_all_query") Check.text entries
      <*> required (.of "get_by_id_query") Check.text entries
      <*> required (.of "insert_query") Check.text entries
      <*> required (.of "update_query") Check.text entries
      <*> required (.of "patch_query") Check.text entries
      <*> required (.of "delete_query") Check.text entries
      <*> required (.of "undelete_query") Check.text entries

def Artifacts.check : Check Artifacts := Check.record Artifacts.model Artifacts.ofEntries

end Query

namespace Record

/-- A record of any model. -/
inductive Instance where
  | entity (e : Entity)
  | joins (j : Query.Joins)
  | artifacts (a : Query.Artifacts)
  | settings (s : Settings)
  | manifest (m : Manifest)
  | file (f : GeneratedFile)

/-- Why a field was not changed. -/
inductive AssignError where
  | rejected (r : Rejection)
  | readOnly (model name : String)

def AssignError.message : AssignError → String
  | .rejected r => r.text
  | .readOnly model name => "property '" ++ name ++ "' of '" ++ model ++ "' object has no setter"

namespace Instance

/-- The model of a record. -/
def model : Instance → String
  | entity _ => Entity.model
  | joins _ => Query.Joins.model
  | artifacts _ => Query.Artifacts.model
  | settings _ => Settings.model
  | manifest _ => Manifest.model
  | file _ => GeneratedFile.model

/-- May the record never be changed? -/
def isFrozen : Instance → Bool
  | entity _ | joins _ | artifacts _ => true
  | settings _ | manifest _ | file _ => false

/-- The properties that are computed and so cannot be given. -/
def computed : Instance → List String
  | settings _ => ["attribute_name", "model_extra", "model_fields_set"]
  | manifest _ => ["entity_count", "model_extra", "model_fields_set"]
  | _ => ["model_extra", "model_fields_set"]

/-- The record of a model that a value describes; `none` if there is no such model. -/
def ofValue? (model : String) (v : Value) : Option (Except Rejection Instance) :=
  let checks : List (String × Check Instance) := [
    (Entity.model, fun v => (Entity.check v).map entity),
    (Query.Joins.model, fun v => (Query.Joins.check v).map joins),
    (Query.Artifacts.model, fun v => (Query.Artifacts.check v).map artifacts),
    (Settings.model, fun v => (Settings.check v).map settings),
    (Manifest.model, fun v => (Manifest.check v).map manifest),
    (GeneratedFile.model, fun v => (GeneratedFile.check v).map file)]
  (checks.lookup model).map fun check => (check v).toExcept model

/-- The record with the field `name` changed; `none` if it has no such field. -/
def changed? (r : Instance) (name : String) (v : Value) : Option (Checked Instance) :=
  match r with
  | settings s => (s.assign? name v).map fun c => c.map settings
  | manifest m => (m.assign? name v).map fun c => c.map manifest
  | file f => (f.assign? name v).map fun c => c.map file
  | _ => none

/-- Changes a field. A name that begins with an underscore is no field, and setting it changes
  nothing. -/
def assign (r : Instance) (name : String) (v : Value) : Except AssignError Instance :=
  let reject (issues : List Issue) : Except AssignError Instance := .error (.rejected ⟨r.model, issues⟩)
  if r.isFrozen then reject [⟨.frozen, [.name name]⟩]
  else if name.toList.head? == some '_' then .ok r
  else if r.computed.contains name then .error (.readOnly r.model name)
  else
    match r.changed? name v with
    | none => reject [⟨.noAttribute name, [.name name]⟩]
    | some c =>
      match c.inside (.name name) with
      | .ok r => .ok r
      | .bad issues => reject issues

end Instance

end Record

end CrudQueries
