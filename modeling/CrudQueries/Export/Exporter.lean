/-
  CrudQueries.Export.Exporter — exports that are made one after the other with one exporter.

  An exporter has an output directory and its options. From one export to the next it keeps the records of the files
  that it has written, and its errors and warnings; what an export comes to, and the inventory that it writes, are of
  all that is kept by then. An export that meets a path no file can have comes to nothing, but what it has kept stays.
-/

import CrudQueries.Export.Run

namespace CrudQueries.Export

open CrudQueries.Files (Path Tree Trouble)

structure Exporter where
  settings : Settings
  options : Options
  output : Path
  records : List FileRecord := []
  errors : List String := []
  warnings : List String := []

/-- What an export comes to. -/
structure Outcome where
  success : Bool
  inventory : Inventory
  errors : List String
  warnings : List String
  deriving DecidableEq, Repr

namespace Exporter

/-- The inventory of the files that are kept. -/
def inventory (x : Exporter) : Inventory := .of Fragment.version x.settings.language.name x.output.text x.records

def outcome (x : Exporter) : Outcome := ⟨x.errors.isEmpty, x.inventory, x.errors, x.warnings⟩

/-- Keeps the record of a file, or why it could not be written. -/
def note (x : Exporter) (w : Written) : Exporter :=
  { x with records := x.records ++ w.outcome.toOption.toList, errors := x.errors ++ (Run.Written.error? w).toList }

def warn (x : Exporter) (warning : String) : Exporter := { x with warnings := x.warnings ++ [warning] }

def clean (t : Tree) (x : Exporter) : Tree × Exporter :=
  let (t, cleaning) := cleanOutput t x.options x.output
  match cleaning with
  | .failed e => (t, x.warn (Run.cleaningWarning x.output e))
  | _ => (t, x)

/-- Writes files one after the other, up to one whose path no file can have. -/
def writeFiles (t : Tree) (x : Exporter) : List (String × String) → Tree × Exporter × Option Trouble
  | [] => (t, x, none)
  | (path, content) :: rest =>
    let (t, w) := writeFile t x.options x.output path content
    match w.fault? with
    | some e => (t, x, some e)
    | none => writeFiles t (x.note w) rest

def writeInventory (t : Tree) (x : Exporter) : Tree × Exporter :=
  if x.options.inventory then
    let (t, w) := writeFile t x.options x.output Inventory.fileName x.inventory.text
    match w.outcome with
    | .ok _ => (t, x)
    | .error e => (t, x.warn ("Could not write manifest: " ++ e.message))
  else (t, x)

/-- One export. -/
def call (t : Tree) (x : Exporter) (files : List (String × String)) : Tree × Exporter × Except Trouble Outcome :=
  let (t, x) := x.clean t
  let made := t.makeDirs x.output
  match made.trouble with
  | some e =>
    let x := { x with errors := x.errors ++ [Run.directoryError e] }
    (made.tree, x, .ok x.outcome)
  | none =>
    match x.writeFiles made.tree (byPath files) with
    | (t, x, some e) => (t, x, .error e)
    | (t, x, none) =>
      let (t, x) := x.writeInventory t
      (t, x, .ok x.outcome)

/-- Exports one after the other, and what each came to. -/
def calls (t : Tree) (x : Exporter) : List (List (String × String)) → Tree × Exporter × List (Except Trouble Outcome)
  | [] => (t, x, [])
  | files :: rest =>
    let (t, x, outcome) := x.call t files
    let (t, x, outcomes) := x.calls t rest
    (t, x, outcome :: outcomes)

end Exporter

end CrudQueries.Export
