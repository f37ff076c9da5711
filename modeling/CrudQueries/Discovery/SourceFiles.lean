/-
  CrudQueries.Discovery.SourceFiles — which files below a directory are looked at.

  All entries whose names end in `.py`, in the order of the names that lead to them. Links to
  directories are not followed. Directories of build products and environments are passed over,
  hidden files and directories unless they are asked for, and what an exclusion pattern matches.
-/

import CrudQueries.Files.Lookup
import CrudQueries.Settings
import CrudQueries.Text.Glob

namespace CrudQueries.Discovery

open CrudQueries.Files (Entry Location Path Tree)

/-- Directories that hold no sources of their own. -/
def skippedDirectories : List String :=
  ["__pycache__", "build", "dist", "node_modules", "venv", ".venv", ".tox"]

/-- Does the name of a file say that it is a source? -/
def isSourceName (name : String) : Bool := ".py".toList.isSuffixOf name.toList

/-- Is a name hidden? -/
def isHidden (name : String) : Bool := name.toList.head? == some '.'

/-- Does a pattern exclude the file that the names lead to? -/
def isExcluded (settings : Settings) (names : Location) : Bool :=
  settings.exclude.any fun pattern => Text.Glob.isMatch pattern ("/".intercalate names)

/-- Is the entry that the names lead to from the root of the search a source to look at? -/
def isSource (settings : Settings) (names : Location) : Bool :=
  isSourceName (names.getLastD "")
    && !names.dropLast.any skippedDirectories.contains
    && (settings.includeHidden || !names.any isHidden)
    && !isExcluded settings names

/-- The sources below a directory. -/
def sourcesBelow (t : Tree) (settings : Settings) (root : Path) : List Path :=
  ((t.below root.parts).map (·.1)).filter (isSource settings) |>.map fun names =>
    root.join ⟨"", names⟩

/-- The sources that a path without links leads to, which is itself one if it is a file. -/
def sourceFiles (t : Tree) (settings : Settings) (root : Path) : List Path :=
  match t.entry? root with
  | .ok (some (.file _)) => [root]
  | _ => sourcesBelow t settings root

end CrudQueries.Discovery
