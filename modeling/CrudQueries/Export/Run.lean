/-
  CrudQueries.Export.Run — writing files below an output directory.

  If it is asked for, the output directory is cleared first; then it is made, the files are written
  in the order of their paths, each whole or not at all, and last the inventory of those that were
  written. A file that cannot be written is an error and the others are still written. That the
  directory cannot be cleared, or the inventory not be written, is a warning only. If the directory
  cannot be made nothing is written. A path that no file can have ends the export (`fault`).
-/

import CrudQueries.Export.Inventory
import CrudQueries.Files.Change
import CrudQueries.Fragment.Marker

namespace CrudQueries.Export

open CrudQueries.Files (Change Path Tree Trouble)

structure Options where
  clean : Bool := false
  atomic : Bool := true
  inventory : Bool := true
  deriving DecidableEq, Repr

/-- What became of clearing the output directory. -/
inductive Cleaning where
  | notAsked
  | nothingThere
  | cleared
  | failed (e : Trouble)
  deriving DecidableEq, Repr

/-- A file that was to be written, and what became of it. -/
structure Written where
  path : String
  outcome : Except Trouble FileRecord

/-- What an export came to. -/
structure Run where
  options : Options
  language : Language
  output : Path
  cleaning : Cleaning := .notAsked
  /-- Why the output directory could not be made. -/
  noDirectory : Option Trouble := none
  files : List Written := []
  /-- The record of the inventory's own file, if it was to be written. -/
  inventoryFile : Option (Except Trouble FileRecord) := none
  /-- What ended the export. -/
  fault : Option Trouble := none

namespace Run

/-- The files that were written. -/
def records (r : Run) : List FileRecord := r.files.filterMap (·.outcome.toOption)

/-- The inventory of the files that were written. -/
def inventory (r : Run) : Inventory := .of Fragment.version r.language.name r.output.text r.records

def directoryError (e : Trouble) : String := "Fatal export error: " ++ e.text

def Written.error? (w : Written) : Option String :=
  match w.outcome with
  | .ok _ => none
  | .error e => some ("Failed to write " ++ w.path ++ ": " ++ e.text)

def errors (r : Run) : List String :=
  r.files.filterMap Written.error? ++ (r.noDirectory.map directoryError).toList

def cleaningWarning (output : Path) (e : Trouble) : String :=
  "Could not clean " ++ output.text ++ ": " ++ e.message

def warnings (r : Run) : List String :=
  (match r.cleaning with
    | .failed e => [cleaningWarning r.output e]
    | _ => [])
  ++ (match r.inventoryFile with
    | some (.error e) => ["Could not write manifest: " ++ e.message]
    | _ => [])

/-- Was everything written? -/
def success (r : Run) : Bool := r.errors.isEmpty

end Run

/-! ## Writing -/

/-- Writes a file, making the directories that lead to it. -/
def writeFile (t : Tree) (options : Options) (output : Path) (path content : String) : Tree × Written :=
  let full := output.join (Path.ofText path)
  let bytes := Text.Utf8.encode content
  let made := t.makeDirs full.parent
  match made.trouble with
  | some e => (made.tree, ⟨path, .error e⟩)
  | none =>
    match if options.atomic then made.tree.replace full bytes else made.tree.write full bytes with
    | .ok t => (t, ⟨path, .ok (.of path full.text content)⟩)
    | .error e => (made.tree, ⟨path, .error e⟩)

/-- Did the attempt meet a path that no file can have? -/
def Written.fault? (w : Written) : Option Trouble :=
  match w.outcome with
  | .ok _ => none
  | .error e => if e.isSystem then none else some e

/-- Writes files one after the other, up to one whose path no file can have. -/
def writeFiles (t : Tree) (options : Options) (output : Path) : List (String × String) → Tree × List Written
  | [] => (t, [])
  | (path, content) :: rest =>
    let (t, w) := writeFile t options output path content
    match w.fault? with
    | some _ => (t, [w])
    | none =>
      let (t, ws) := writeFiles t options output rest
      (t, w :: ws)

/-- Files in the order of their paths. -/
def byPath (files : List (String × String)) : List (String × String) :=
  files.mergeSort fun (p, _) (q, _) => decide (p ≤ q)

/-- Clears the output directory if that is asked for. -/
def cleanOutput (t : Tree) (options : Options) (output : Path) : Tree × Cleaning :=
  if options.clean then
    let change := t.clear output true
    match change.trouble, t.entry? output with
    | some e, _ => (change.tree, .failed e)
    | none, .ok none => (change.tree, .nothingThere)
    | none, _ => (change.tree, .cleared)
  else (t, .notAsked)

/-- Writes the inventory of a run if that is asked for. -/
def writeInventory (t : Tree) (r : Run) : Tree × Run :=
  if r.options.inventory then
    let (t, w) := writeFile t r.options r.output Inventory.fileName r.inventory.text
    (t, { r with inventoryFile := some w.outcome })
  else (t, r)

/-- Exports files to an output directory whose path has no links. -/
def run (t : Tree) (settings : Settings) (options : Options) (output : Path) (files : List (String × String)) :
    Tree × Run :=
  let (t, cleaning) := cleanOutput t options output
  let r : Run := { options, language := settings.language, output, cleaning }
  let made := t.makeDirs output
  match made.trouble with
  | some e => (made.tree, { r with noDirectory := some e })
  | none =>
    let (t, written) := writeFiles made.tree options output (byPath files)
    let r := { r with files := written }
    match written.findSome? (·.fault?) with
    | some e => (t, { r with fault := some e })
    | none => writeInventory t r

end CrudQueries.Export
