/-
  CrudQueries.Fragment.Path — where fragments and the marker declaration are written.

  A Python fragment is a module beside the file that declares its type: the folders are the
  parts of the package, the file is the snake-case name of the type with the module suffix. A
  C# fragment is named for its type. The marker declaration lies at the root of the output.
-/

import CrudQueries.Entity
import CrudQueries.Settings

namespace CrudQueries.Fragment

/-- The file name of a type's fragment. -/
def fileName (settings : Settings) (e : Entity) : String :=
  match settings.language with
  | .csharp => e.typeName ++ ".g.cs"
  | .python => Text.snakeCase e.typeName ++ settings.moduleSuffix ++ ".py"

/-- The folders of a dotted package. -/
def packageFolders (package : String) : List String :=
  if package.isEmpty then [] else (Text.splitOnChar '.' package.toList).map String.ofList

/-- The path of a type's fragment below the output directory. -/
def path (settings : Settings) (e : Entity) : String :=
  match settings.language with
  | .csharp => fileName settings e
  | .python => "/".intercalate (packageFolders e.outputPackage ++ [fileName settings e])

/-- The path of the marker declaration below the output directory. -/
def markerPath (settings : Settings) : String :=
  match settings.language with
  | .csharp => settings.attributeName ++ ".g.cs"
  | .python => Text.snakeCase settings.markerName ++ ".py"

end CrudQueries.Fragment
