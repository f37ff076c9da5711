/-
  CrudQueries.Entity — a marked type, reduced to what its queries need.

  The field list is kept as it was declared. A position that held something other than a text
  has the empty text there and is listed as malformed; validation decides what that means. The
  fragment of a type goes into the package of the file that declares it (`outputPackage`),
  which is taken from the module's path when it is not given.
-/

import CrudQueries.Record.Check
import CrudQueries.Text.Words

namespace CrudQueries

open Record

structure Entity where
  typeName : String
  table : Option String
  fields : List String
  malformed : List Int
  markerCount : Nat
  sourceFile : Option String
  line : Option Nat
  modulePath : Option String
  package : Option String
  deriving DecidableEq, Repr

namespace Entity

/-- The name of the record in messages. -/
def model : String := "EntityDescriptor"

/-- The part of a dotted path before its last dot; nothing if it has none. -/
def parentPath (path : String) : String :=
  match Text.splitOnChar '.' path.toList |>.reverse with
  | _ :: rest => String.ofList (['.'].intercalate rest.reverse)
  | [] => ""

/-- The package that the fragment is written into. -/
def outputPackage (e : Entity) : String :=
  match e.package, e.modulePath with
  | some package, _ => package
  | none, some path => parentPath path
  | none, none => ""

/-- File and line if both are known, else the file or the type's name. -/
def location (e : Entity) : String :=
  match e.sourceFile with
  | none => e.typeName
  | some file =>
    if file.isEmpty then e.typeName
    else
      match e.line with
      | some n => file ++ ":" ++ toString n
      | none => file

/-- The display of a list of texts. -/
def shownList (texts : List String) : String :=
  "[" ++ ", ".intercalate (texts.map Text.shown) ++ "]"

/-- The display of an entity. -/
def shown (e : Entity) : String :=
  let table := match e.table with
    | some t => Text.shown t
    | none => "None"
  "<EntityDescriptor " ++ e.typeName ++ " table=" ++ table ++ " fields=" ++ shownList e.fields ++ ">"

/-! ## As a record -/

def typeNameField : FieldName := ⟨"name", "type_name"⟩
def tableField : FieldName := ⟨"table", "table_name"⟩
def fieldsField : FieldName := ⟨"fields", "field_names"⟩

def recordFields : List FieldName :=
  [typeNameField, tableField, fieldsField] ++
    ["malformed_field_indexes", "marker_count", "source_file", "line", "module", "package"].map FieldName.of

/-- A field list; nothing at all is an empty one. -/
def checkFields : Check (List String)
  | .null => .ok []
  | v => Check.sequence .tuple Check.text v

/-- The entity that entries describe. -/
def ofEntries : List (Data.Value × Data.Value) → Checked Entity :=
  closed recordFields fun entries =>
    Entity.mk
      <$> required typeNameField Check.filledText entries
      <*> optional tableField none (Check.orNull Check.text) entries
      <*> optional fieldsField [] checkFields entries
      <*> optional (.of "malformed_field_indexes") [] (Check.sequence .tuple Check.whole) entries
      <*> optional (.of "marker_count") 1 (Check.wholeFrom 1) entries
      <*> optional (.of "source_file") none (Check.orNull Check.text) entries
      <*> optional (.of "line") none (Check.orNull (Check.wholeFrom 1)) entries
      <*> optional (.of "module") none (Check.orNull Check.text) entries
      <*> optional (.of "package") none (Check.orNull Check.text) entries

def check : Check Entity := Check.record model ofEntries

end Entity

end CrudQueries
