/-
  CrudQueries.Validation.Full — settings, then types against each other, then each type.

  No two fragments may have the same path, nor a fragment that of the marker declaration;
  paths that differ only in the case of letters are the same. Of two types with one path the
  later one is at fault.
-/

import CrudQueries.Fragment.Path
import CrudQueries.Validation.Entity

namespace CrudQueries.Validation

open CrudQueries.Data (Value)

/-! ## Settings -/

/-- The diagnostic of a setting whose text is not of the right form. -/
def invalidSetting (code message name value : String) : Diagnostic :=
  ⟨.error, code, message, [(.text name, .text value)]⟩

/-- The names in the settings must be names, the suffixes parts of names. -/
def checkSettings (s : Settings) : Diagnostics :=
  (if Text.isDottedIdentifier s.namespaceName then [] else
    [invalidSetting "INVALID_NAMESPACE"
      ("Namespace '" ++ s.namespaceName ++ "' is not a dotted identifier.") "namespace" s.namespaceName])
  ++ (if Text.isIdentifier s.markerName then [] else
    [invalidSetting "INVALID_MARKER_NAME"
      ("Marker name '" ++ s.markerName ++ "' is not a valid identifier.") "marker_name" s.markerName])
  ++ (if Text.isNameSuffix s.moduleSuffix then [] else
    [invalidSetting "INVALID_MODULE_SUFFIX"
      ("Module suffix '" ++ s.moduleSuffix ++ "' may only contain letters, digits and underscores.")
      "module_suffix" s.moduleSuffix])
  ++ (if Text.isNameSuffix s.mixinSuffix then [] else
    [invalidSetting "INVALID_MIXIN_SUFFIX"
      ("Mixin suffix '" ++ s.mixinSuffix ++ "' may only contain letters, digits and underscores.")
      "mixin_suffix" s.mixinSuffix])
  ++ (if s.coerceMalformed then
    [⟨.info, "COERCION_ENABLED", "Malformed marker arguments will be coerced to '' instead of failing.", []⟩]
    else [])

/-! ## Paths -/

/-- A path without regard to the case of letters. -/
def pathKey (path : String) : String := Text.fold path

/-- The diagnostic of a fragment at the marker's path. -/
def markerCollision (index : Nat) (e : Entity) (markerPath path : String) : Diagnostic :=
  ⟨.error, "FRAGMENT_PATH_COLLISION",
    "The fragment of '" ++ e.typeName ++ "' at " ++ e.location
      ++ " would overwrite the marker declaration '" ++ markerPath ++ "'.",
    about index e [("path", .text path)]⟩

/-- The diagnostic of a fragment at the path of an earlier type's fragment. -/
def fragmentCollision (index : Nat) (e first : Entity) (path : String) : Diagnostic :=
  let context := about index e [("path", .text path)]
  if first.typeName == e.typeName then
    ⟨.error, "DUPLICATE_TYPE_NAME",
      "'" ++ e.typeName ++ "' at " ++ e.location ++ " would overwrite the fragment of '" ++ first.typeName
        ++ "' at " ++ first.location ++ ".",
      context⟩
  else
    ⟨.error, "FRAGMENT_PATH_COLLISION",
      "'" ++ e.typeName ++ "' at " ++ e.location ++ " and '" ++ first.typeName ++ "' at " ++ first.location
        ++ " both render to '" ++ path ++ "'.",
      context⟩

/-- The collisions of the entities from position `index` on; `seen` holds the first entity of
  each path so far. -/
def collisionsFrom (settings : Settings) (index : Nat) (seen : List (String × Entity)) :
    List Entity → Diagnostics
  | [] => []
  | e :: rest =>
    if e.fields.isEmpty then collisionsFrom settings (index + 1) seen rest
    else
      let path := Fragment.path settings e
      let key := pathKey path
      let markerPath := Fragment.markerPath settings
      if key == pathKey markerPath then
        markerCollision index e markerPath path :: collisionsFrom settings (index + 1) seen rest
      else
        match seen.lookup key with
        | some first =>
          fragmentCollision index e first path :: collisionsFrom settings (index + 1) seen rest
        | none => collisionsFrom settings (index + 1) ((key, e) :: seen) rest

/-- The collisions of the paths of all fragments. -/
def checkPaths (entities : List Entity) (settings : Settings) : Diagnostics :=
  collisionsFrom settings 0 [] entities

/-! ## Everything -/

/-- All diagnostics of entities and settings. -/
def full (entities : List Entity) (settings : Settings) : Diagnostics :=
  checkSettings settings ++ checkPaths entities settings
    ++ entities.zipIdx.flatMap fun (e, index) => checkEntity index e settings

end CrudQueries.Validation
