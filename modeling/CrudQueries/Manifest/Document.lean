/-
  CrudQueries.Manifest.Document — the mapping that a file holds.

  The suffix of a file says whether it is JSON or YAML, without regard to case. A file with another
  suffix is read as JSON and, if that fails in any way, as YAML. An empty YAML document is an empty
  mapping.
-/

import CrudQueries.Data.Json.Reader
import CrudQueries.Data.Yaml.Reader
import CrudQueries.Files.Reading
import CrudQueries.Text.Case

namespace CrudQueries.Manifest

open CrudQueries.Data (Value)
open CrudQueries.Files (Path Tree)

abbrev Mapping := List (Value × Value)

/-- Why a path gives no mapping. -/
inductive DocumentError where
  | missing (path : String)
  | notFile (path : String)
  | trouble (e : Files.Trouble)
  | unreadable (e : Files.ReadError)
  | json (path : String) (e : Data.Json.ReadError)
  | jsonKind (kind : String)
  | yaml (path : String) (e : Data.Yaml.ReadError)
  | yamlKind (kind : String)

namespace DocumentError

/-- The name of the kind of an error. -/
def kind : DocumentError → String
  | missing _ => "FileNotFoundError"
  | trouble e => e.kind
  | unreadable e => e.kind
  | yaml _ .malformed => "ValueError"
  | yaml _ e => e.kind
  | notFile _ | json _ _ | jsonKind _ | yamlKind _ => "ValueError"

def message : DocumentError → String
  | missing path => "File not found: " ++ path
  | notFile path => "Path is not a file: " ++ path
  | trouble e => e.message
  | unreadable e => e.message
  | json path .malformed => "Invalid JSON in " ++ path ++ ": " ++ Data.Json.ReadError.malformed.message
  | json _ e => e.message
  | jsonKind kind => "Expected a JSON object at top level, got " ++ kind ++ "."
  | yaml path .malformed => "Invalid YAML in " ++ path ++ ": " ++ Data.Yaml.ReadError.malformed.message
  | yaml _ e => e.message
  | yamlKind kind => "Expected a YAML mapping at top level, got " ++ kind ++ "."

/-- The kinds of errors that say that an input cannot be used. -/
def inputKinds : List String := ["FileNotFoundError", "ValueError", "UnicodeDecodeError"]

/-- Does the error say that the input cannot be used? Any other ends the whole run. -/
def isInputError (e : DocumentError) : Bool := inputKinds.contains e.kind

end DocumentError

/-- The mapping that a JSON text holds. -/
def ofJson (path text : String) : Except DocumentError Mapping :=
  match Data.Json.read text with
  | .error e => .error (.json path e)
  | .ok (.map entries) => .ok entries
  | .ok v => .error (.jsonKind v.kind)

/-- The mapping that a YAML text holds. -/
def ofYaml (path text : String) : Except DocumentError Mapping :=
  match Data.Yaml.read text with
  | .error e => .error (.yaml path e)
  | .ok .null => .ok []
  | .ok (.map entries) => .ok entries
  | .ok v => .error (.yamlKind v.kind)

/-- The suffix of a path, in small letters. -/
def suffixOf (p : Path) : String := Text.lower p.suffix

/-- Does the suffix say how to read the file? -/
def isKnownSuffix (suffix : String) : Bool := [".yaml", ".yml", ".json"].contains suffix

/-- The text of the file at a path, read by its suffix. -/
def readDocument (t : Tree) (p : Path) : Except DocumentError Mapping :=
  let read (ofText : String → String → Except DocumentError Mapping) : Except DocumentError Mapping :=
    match t.readText p with
    | .ok text => ofText p.text text
    | .error e => .error (.unreadable e)
  let suffix := suffixOf p
  if suffix == ".yaml" || suffix == ".yml" then read ofYaml
  else if suffix == ".json" then read ofJson
  else
    match read ofJson with
    | .ok entries => .ok entries
    | .error e => if e.kind == "ValueError" || e.kind == "UnicodeDecodeError" then read ofYaml else .error e

/-- Is there a file at a path? -/
def checkFile (t : Tree) (p : Path) : Except DocumentError Unit :=
  match t.entry? p with
  | .error e => .error (.trouble e)
  | .ok none => .error (.missing p.text)
  | .ok (some (.file _)) => .ok ()
  | .ok (some _) => .error (.notFile p.text)

/-- The mapping that the file at a path holds. -/
def loadDocument (t : Tree) (p : Path) : Except DocumentError Mapping := do
  checkFile t p
  readDocument t p

end CrudQueries.Manifest
