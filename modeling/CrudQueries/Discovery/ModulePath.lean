/-
  CrudQueries.Discovery.ModulePath — the dotted names of source files.

  A file is named by the path that leads to it from the root of the scan, without its suffix;
  a file `__init__` has the name of its directory. The package of a file is the path of the
  directory that holds it. A file outside of the root is named by its own name alone.
-/

import CrudQueries.Files.Path

namespace CrudQueries.Discovery

open CrudQueries.Files (Path)

/-- The path that names the file has no name itself. -/
structure NamelessPath where
  path : Path
  deriving DecidableEq, Repr

def NamelessPath.message (e : NamelessPath) : String := e.path.shown ++ " has an empty name"

/-- The dotted name of a file. -/
def modulePath (path root : Path) : Except NamelessPath String :=
  let relative := (path.relativeTo? root).getD (Path.ofText path.name)
  match relative.withoutSuffix? with
  | none => .error ⟨relative⟩
  | some stem =>
    let parts := if stem.parts.getLast? == some "__init__" then
        if stem.parts.length > 1 then stem.parts.dropLast else [root.name]
      else stem.parts
    .ok (".".intercalate parts)

/-- The dotted name of the directory that holds a file. -/
def packagePath (path root : Path) : String :=
  match path.relativeTo? root with
  | some relative => ".".intercalate relative.parent.parts
  | none => ""

end CrudQueries.Discovery
