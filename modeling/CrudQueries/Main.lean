/-
  CrudQueries.Main — the program.

  It reads the files that the arguments lead to, runs on them, and writes what has changed. Links are
  read as links to the real paths of what they lead to.
-/

import CrudQueries.CommandLine.Run

namespace CrudQueries.Program

open CrudQueries.CommandLine (Arguments)
open CrudQueries.Files (Entry Location Path Tree)

-- Lists are compared as the core library does, whatever else is imported.
attribute [local instance (high)] List.instLE

/-- The text of the absolute path of a location. -/
def textOf (place : Location) : String := (⟨"/", place⟩ : Path).text

/-- Is there anything at a location? -/
def kindAt? (place : Location) : IO (Option IO.FS.FileType) := do
  let root ← IO.FS.realPath "/"
  try
    let data ← (root / textOf place).symlinkMetadata
    return some data.type
  catch _ => return none

/-- Reads a location and all that lies below it, unless it has been read before. -/
partial def readBelow (t : Tree) (place : Location) : IO Tree := do
  if place != [] && (t.get? place).isSome && (t.get? place) != some .dir then return t
  match ← kindAt? place with
  | some .file =>
    let bytes ← IO.FS.readBinFile (textOf place)
    return t.put place (.file bytes)
  | some .dir =>
    let root ← IO.FS.realPath (textOf place)
    let mut t := if place == [] then t else t.put place .dir
    for entry in ← root.readDir do
      t ← readBelow t (place ++ [entry.fileName])
    return t
  | some .symlink =>
    try
      let target := (← IO.FS.realPath (textOf place)).toString
      readBelow (t.put place (.link target)) (Path.ofText target).parts
    catch _ => return t.put place (.link (textOf place))
  | _ => return t

/-- Reads what lies on the way to a location, and with `deep` what lies below it. -/
partial def readTo (t : Tree) (place : Location) (names : List String) (deep : Bool) : IO Tree := do
  match names with
  | [] => if deep then readBelow t place else return t
  | name :: rest =>
    let next := if name == ".." then place.dropLast else place ++ [name]
    match ← kindAt? next with
    | some .dir => readTo (if next == [] then t else t.put next .dir) next rest deep
    | some _ => readBelow t next
    | none => return t

/-- Reads the files that the arguments lead to. -/
def readTree (a : Arguments) : IO Tree := do
  let here := (Path.ofText (← IO.currentDir).toString).parts
  let mut t : Tree := { here }
  t ← readTo t [] here false
  let wanted := (a.manifest.toList ++ a.config.toList).map (·, false)
    ++ (a.sources.getD [] ++ a.output.toList).map (·, true)
  for (text, deep) in wanted do
    let p := Path.ofText text
    t ← readTo t [] (t.startOf p ++ p.parts) deep
  return t

/-- Writes what differs between two trees. -/
def writeChanges (before after : Tree) : IO Unit := do
  let gone := before.entries.filter fun (place, _) => (after.get? place).isNone
  for (place, entry) in gone.mergeSort fun (p, _) (q, _) => decide (q ≤ p) do
    match entry with
    | .dir => IO.FS.removeDir (textOf place)
    | _ => IO.FS.removeFile (textOf place)
  let changed := after.entries.filter fun (place, entry) => before.get? place != some entry
  for (place, entry) in changed.mergeSort fun (p, _) (q, _) => decide (p ≤ q) do
    match entry with
    | .dir => IO.FS.createDirAll (textOf place)
    | .file bytes =>
      let name := place.getLastD ""
      let temporary := textOf (place.dropLast ++ [Tree.temporaryName name])
      IO.FS.writeBinFile temporary bytes
      IO.FS.rename temporary (textOf place)
    | .link _ => pure ()

end CrudQueries.Program

open CrudQueries

def main (args : List String) : IO UInt32 := do
  let before ← match CommandLine.Arguments.read args with
    | .ok a => Program.readTree a
    | .error _ => pure {}
  let outcome := CommandLine.run before args
  Program.writeChanges before outcome.tree
  (← IO.getStdout).putStr outcome.output
  (← IO.getStderr).putStr (CommandLine.logText CommandLine.startTime outcome.log)
  return outcome.exitCode.toUInt32
