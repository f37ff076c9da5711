/-
  CrudQueries.Discovery.Search — the marked classes of files and directories.

  Paths are searched in the order given. A file that cannot be read, or whose text is no source,
  is an error and the search goes on; a path that leads nowhere ends it.
-/

import CrudQueries.Discovery.ModulePath
import CrudQueries.Discovery.Scan
import CrudQueries.Discovery.SourceFiles
import CrudQueries.Files.Reading

namespace CrudQueries.Discovery

open CrudQueries.Files (Entry Path Tree Trouble)

/-- Why a file has no findings. -/
inductive VisitError where
  | unreadable (e : Files.ReadError)
  | unscannable (e : ScanError)
  | nameless (e : NamelessPath)
  deriving DecidableEq

def VisitError.message : VisitError → String
  | .unreadable e => e.message
  | .unscannable e => e.message
  | .nameless e => e.message

/-- A file that was looked at, and its marked classes. -/
structure Visit where
  path : Path
  outcome : Except VisitError (List Finding)

def Visit.entities (v : Visit) : List Entity :=
  match v.outcome with
  | .ok found => found.map (·.entity)
  | .error _ => []

/-- The message of a file that has no findings. -/
def Visit.error? (v : Visit) : Option String :=
  match v.outcome with
  | .ok _ => none
  | .error e => some (v.path.text ++ ": " ++ e.message)

/-- Why a search ended before all paths were searched. -/
inductive Stop where
  | missing (path : String)
  | trouble (e : Trouble)
  deriving DecidableEq

namespace Stop

def kind : Stop → String
  | missing _ => "FileNotFoundError"
  | trouble e => e.kind

def message : Stop → String
  | missing path => "Source path not found: " ++ path
  | trouble e => e.message

end Stop

/-- What a search came to. -/
structure Search where
  visits : List Visit := []
  stop : Option Stop := none

namespace Search

def entities (s : Search) : List Entity := s.visits.flatMap (·.entities)

def errors (s : Search) : List String := s.visits.filterMap (·.error?)

end Search

/-- Looks at one file, which is named as seen from `base`. -/
def visit (t : Tree) (settings : Settings) (base path : Path) : Visit where
  path
  outcome := do
    let source ← (t.readText path).mapError .unreadable
    let modulePath ← (modulePath path base).mapError .nameless
    (scan source settings.markerName ⟨path.text, some modulePath, some (packagePath path base)⟩).mapError
      .unscannable

/-- Looks at all sources of one path. -/
def searchPath (t : Tree) (settings : Settings) (path : Path) : Except Stop (List Visit) := do
  let root ← (t.resolve path).mapError .trouble
  match ← (t.entry? root).mapError .trouble with
  | none => .error (.missing root.text)
  | some (.file _) => .ok [visit t settings root.parent root]
  | some _ => .ok ((sourceFiles t settings root).map (visit t settings root))

/-- Looks at all sources of the paths, in order. -/
def search (t : Tree) (settings : Settings) : List Path → Search
  | [] => {}
  | path :: rest =>
    match searchPath t settings path with
    | .error stop => { stop }
    | .ok visits =>
      let later := search t settings rest
      { later with visits := visits ++ later.visits }

end CrudQueries.Discovery
