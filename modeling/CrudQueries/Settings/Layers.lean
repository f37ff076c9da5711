/-
  CrudQueries.Settings.Layers — settings from several mappings, of which later ones win.

  Mappings are merged before anything is checked, so a value that a later mapping replaces is
  never looked at.
-/

import CrudQueries.Settings

namespace CrudQueries.Settings

open CrudQueries.Data (Value)

/-- The mappings merged from first to last. -/
def merge (layers : List (List (Value × Value))) : List (Value × Value) :=
  layers.foldl Value.overlay []

/-- The settings that merged mappings describe. -/
def ofLayers (layers : List (List (Value × Value))) : Except Record.Rejection Settings :=
  (ofEntries (merge layers)).toExcept model

/-- The message of refused settings. -/
def refusal (r : Record.Rejection) : String := "Config validation failed: " ++ r.text

end CrudQueries.Settings
