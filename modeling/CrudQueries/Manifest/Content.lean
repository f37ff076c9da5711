/-
  CrudQueries.Manifest.Content — entities and settings in a mapping.

  Entities are listed under `entities` or else `types`; settings stand under `config` or else
  `generation_config`. An item's field list may hold anything: what is no text is malformed. An
  item without a source file gets the one of the manifest.
-/

import CrudQueries.Discovery.FieldValues
import CrudQueries.Manifest.Document
import CrudQueries.Record.Instance
import CrudQueries.Settings.Layers

namespace CrudQueries.Manifest

open CrudQueries.Data (Value)
open CrudQueries.Files (Path Tree)

/-- Why a mapping is no manifest. -/
inductive ContentError where
  | noEntities
  | entities (kind : String)
  | part (key kind : String)
  | item (index : Nat) (kind : String)
  | fields (index : Nat) (kind : String)
  | rejected (r : Record.Rejection)
  | settings (r : Record.Rejection)

def ContentError.message : ContentError → String
  | .noEntities =>
    "Cannot find entity list in manifest. Expected top-level key: 'entities' or 'types'."
  | .entities kind => "Entity list must be a list, got " ++ kind ++ "."
  | .part key kind => "'" ++ key ++ "' must be a mapping, got " ++ kind ++ "."
  | .item index kind => "Entity #" ++ toString index ++ " must be a mapping, got " ++ kind ++ "."
  | .fields index kind => "Entity #" ++ toString index ++ ": 'fields' must be a list, got " ++ kind ++ "."
  | .rejected r => "Manifest validation failed: " ++ r.text
  | .settings r => Settings.refusal r

/-- The first of the keys that a mapping has, and its value. -/
def firstOf (keys : List String) (mapping : Mapping) : Option (String × Value) :=
  keys.findSome? fun key => (Value.field? mapping key).map fun v => (key, v)

/-- The settings inside a mapping; nothing if it has no place for them. -/
def settingsIn (mapping : Mapping) : Except ContentError (Option Mapping) :=
  match firstOf ["config", "generation_config"] mapping with
  | none => .ok none
  | some (_, .null) => .ok (some [])
  | some (_, .map entries) => .ok (some entries)
  | some (key, v) => .error (.part key v.kind)

/-! ## Entities -/

/-- The values of a field list. -/
def fieldValues? : Value → Option (List Value)
  | .null => some []
  | .list items => some items
  | .pair a b => some [a, b]
  | _ => none

/-- An item's entries, with its field list parted into names and malformed positions. -/
def normalItem (sourceFile : Option String) (entries : Mapping) (values : List Value) : Mapping :=
  let texts := values.map (·.text?)
  let entries := Value.put (Value.erase entries (.text "fields")) (.text "fields")
    (.list ((Discovery.fieldNames texts).map .text))
  let entries := Value.put entries (.text "malformed_field_indexes")
    (.list ((Discovery.missingPositions texts).map fun (n : Nat) => Value.int n))
  match Value.field? entries "source_file" with
  | some _ => entries
  | none => Value.put entries (.text "source_file") ((sourceFile.map Value.text).getD .null)

/-- The entity that the item at a position describes. -/
def entityOfItem (sourceFile : Option String) (index : Nat) (item : Value) : Except ContentError Entity :=
  match item with
  | .map entries =>
    let fields := (Value.field? entries "fields").getD .null
    match fieldValues? fields with
    | none => .error (.fields index fields.kind)
    | some values =>
      ((Entity.ofEntries (normalItem sourceFile entries values)).toExcept Entity.model).mapError .rejected
  | v => .error (.item index v.kind)

/-! ## Manifests -/

/-- The parts of a manifest before their contents are looked at. -/
structure Outline where
  items : List Value
  settings : Option Mapping

/-- The parts of the manifest that a mapping is. -/
def outline (mapping : Mapping) : Except ContentError Outline :=
  match firstOf ["entities", "types"] mapping with
  | none | some (_, .null) => .error .noEntities
  | some (_, .list items) => do .ok ⟨items, ← settingsIn mapping⟩
  | some (_, v) => .error (.entities v.kind)

/-- The entities of a manifest, and its settings with others put over them. -/
def Outline.read (o : Outline) (sourceFile : Option String) (overrides : Mapping) :
    Except ContentError (Manifest × Settings) := do
  let entities ← o.items.zipIdx.mapM fun (item, index) => entityOfItem sourceFile index item
  let settings ← (Settings.ofLayers [o.settings.getD [], overrides]).mapError .settings
  .ok ({ entities, sourceFile }, settings)

/-- The manifest and settings of a mapping. -/
def ofMapping (mapping : Mapping) (sourceFile : Option String) (overrides : Mapping) :
    Except ContentError (Manifest × Settings) := do
  let o ← outline mapping
  o.read sourceFile overrides

/-! ## Files of settings -/

/-- Why a file gives no settings. -/
inductive SettingsFileError where
  | document (e : DocumentError)
  | content (e : ContentError)

namespace SettingsFileError

def kind : SettingsFileError → String
  | document e => e.kind
  | content _ => "ValueError"

def message : SettingsFileError → String
  | document e => e.message
  | content e => e.message

def isInputError : SettingsFileError → Bool
  | document e => e.isInputError
  | content _ => true

end SettingsFileError

/-- The settings in a file, either all of it or the part that is for them. -/
def loadSettings (t : Tree) (p : Path) : Except SettingsFileError Mapping := do
  let mapping ← (loadDocument t p).mapError .document
  let part ← (settingsIn mapping).mapError .content
  .ok (part.getD mapping)

end CrudQueries.Manifest
