/-
  CrudQueries.Files.Change — writing, making directories, clearing.

  A file is written in place, through links, or replaced: its bytes go to a temporary file beside
  it, which then takes its name in one step, in the place of a file or link that had it
  (`replace`). No failure leaves the temporary file behind. Making directories stops at the first
  that cannot be made and keeps those made before. Clearing a directory removes its entries in
  the order of their names; it stops at a link to a directory and keeps what is left.
-/

import CrudQueries.Files.Lookup

namespace CrudQueries.Files

/-- What a change leaves: the tree, and the trouble that stopped it, if any did. -/
structure Change where
  tree : Tree
  trouble : Option Trouble := none

namespace Tree

/-- A change that is made in full or not at all. -/
def attempt (t : Tree) (result : Except Trouble Tree) : Change :=
  match result with
  | .ok t' => ⟨t', none⟩
  | .error e => ⟨t, some e⟩

/-! ## Directories -/

/-- Makes the directory of a path, which must not lead to anything. -/
def makeDir (t : Tree) (p : Path) : Except Trouble Tree := do
  match ← t.find false p with
  | .found _ _ => .error (.onPath .taken p.text)
  | .missing parent name => .ok (t.put (parent ++ [name]) .dir)

/-- Passes over a trouble of the file system if the path leads to a directory all the same. -/
def unlessDir (t : Tree) (p : Path) (e : Trouble) : Change :=
  if e.isSystem then
    match t.entry? p with
    | .ok (some .dir) => ⟨t, none⟩
    | .ok _ => ⟨t, some e⟩
    | .error e => ⟨t, some e⟩
  else ⟨t, some e⟩

/-- Makes the directory whose path has the root and parts given, and those that lead to it. -/
def makeDirsAt (t : Tree) (root : String) : (reversedParts : List String) → Change
  | [] =>
    match t.makeDir ⟨root, []⟩ with
    | .ok t => ⟨t, none⟩
    | .error e => t.unlessDir ⟨root, []⟩ e
  | part :: parts =>
    let p : Path := ⟨root, (part :: parts).reverse⟩
    match t.makeDir p with
    | .ok t => ⟨t, none⟩
    | .error e =>
      if e.isNoEntry then
        let parent := makeDirsAt t root parts
        match parent.trouble with
        | some _ => parent
        | none =>
          match parent.tree.makeDir p with
          | .ok t => ⟨t, none⟩
          | .error e => parent.tree.unlessDir p e
      else t.unlessDir p e

/-- Makes the directory of a path and those that lead to it, unless they are there. -/
def makeDirs (t : Tree) (p : Path) : Change := t.makeDirsAt p.root p.parts.reverse

/-! ## Files -/

/-- Writes a file in place. -/
def write (t : Tree) (p : Path) (bytes : ByteArray) : Except Trouble Tree := do
  match ← t.find true p with
  | .found place (.file _) => .ok (t.put place (.file bytes))
  | .found _ _ => .error (.onPath .isDirectory p.text)
  | .missing parent name => .ok (t.put (parent ++ [name]) (.file bytes))

/-- Makes a link. -/
def link (t : Tree) (p : Path) (target : String) : Except Trouble Tree := do
  match ← t.find false p with
  | .found _ _ => .error (.onPath .taken p.text)
  | .missing parent name => .ok (t.put (parent ++ [name]) (.link target))

/-- The temporary name of a file. Eight other characters stand for `TMP` while it is used. -/
def temporaryName (name : String) : String := "." ++ name ++ ".TMP.tmp"

/-- The bytes of a temporary name while it is used. -/
def temporaryNameSize (name : String) : Nat := name.utf8ByteSize + 14

/-- The directory of the temporary file: that of the path, every name before two dots taken back. -/
def temporaryDir (t : Tree) (p : Path) : Path :=
  ⟨if p.isAbsolute then p.root else "/", plainLocation (t.startOf p) p.parent.parts⟩

/-- Why the temporary file at `temporary` cannot be made, if it cannot. -/
def temporaryTrouble? (t : Tree) (directory : Path) (name temporary : String) : Option Trouble :=
  match t.walk true maxLinks [] directory.parts with
  | .error cause => some (.onPath cause temporary)
  | .ok (.missing _ _) => some (.onPath .noEntry temporary)
  | .ok (.found _ .dir) =>
    if temporaryNameSize name > maxNameSize then some (.onPath .nameTooLong temporary) else none
  | .ok (.found _ _) => some (.onPath .notDirectory temporary)

/-- Replaces a file in one step. -/
def replace (t : Tree) (p : Path) (bytes : ByteArray) : Except Trouble Tree :=
  let directory := t.temporaryDir p
  let temporary := (directory.join ⟨"", [temporaryName p.name]⟩).text
  if hasNull p then .error .nullCharacter
  else
    match t.temporaryTrouble? directory p.name temporary with
    | some e => .error e
    | none =>
      match t.walk false maxLinks (t.startOf p) p.parts with
      | .error cause => .error (.moving cause temporary p.text)
      | .ok (.missing parent name) => .ok (t.put (parent ++ [name]) (.file bytes))
      | .ok (.found place entry) =>
        if p.name.isEmpty || p.name == ".." then .error (.moving .busy temporary p.text)
        else
          match entry with
          | .dir => .error (.moving .isDirectory temporary p.text)
          | _ => .ok (t.put place (.file bytes))

/-! ## Clearing -/

/-- The names that clearing can be asked to keep. -/
def keptNames : List String := [".git", ".gitignore", ".gitkeep"]

/-- Removes a file or a link. -/
def removeFile (t : Tree) (p : Path) : Except Trouble Tree := do
  match ← t.find false p with
  | .found _ .dir => .error (.onPath .isDirectory p.text)
  | .found place _ => .ok (t.remove place)
  | .missing _ _ => .error (.onPath .noEntry p.text)

/-- Removes a directory: first what it holds, then the directory itself, to which the path must
  still lead by then. -/
def removeDir (t : Tree) (p : Path) : Change :=
  match t.find false p with
  | .ok (.found place .dir) =>
    let emptied := t.empty place
    match emptied.find false p with
    | .ok (.found place _) => ⟨emptied.remove place, none⟩
    | .ok (.missing _ _) => ⟨emptied, some (.onPath .noEntry p.text)⟩
    | .error e => ⟨emptied, some e⟩
  | .ok (.found _ _) => ⟨t, some .linkedTree⟩
  | .ok (.missing _ _) => ⟨t, some (.onPath .noEntry p.text)⟩
  | .error e => ⟨t, some e⟩

/-- Removes what a path leads to, which may be a link. -/
def removeAt (t : Tree) (p : Path) : Change :=
  match t.entry? p with
  | .ok (some .dir) => t.removeDir p
  | .ok _ => t.attempt (t.removeFile p)
  | .error e => ⟨t, some e⟩

/-- Removes the paths one after the other. -/
def removeAll (t : Tree) : List Path → Change
  | [] => ⟨t, none⟩
  | p :: rest =>
    let change := t.removeAt p
    match change.trouble with
    | none => removeAll change.tree rest
    | some _ => change

/-- Removes all that a directory holds, if there is one, and keeps the directory. -/
def clear (t : Tree) (p : Path) (keepGit : Bool) : Change :=
  match t.entry? p with
  | .error e => ⟨t, some e⟩
  | .ok none => ⟨t, none⟩
  | .ok (some _) =>
    match t.find true p with
    | .ok (.found place .dir) =>
      let cleared := (t.names place).filter fun name => !(keepGit && keptNames.contains name)
      t.removeAll (cleared.map fun name => p.join ⟨"", [name]⟩)
    | .ok _ => ⟨t, some (.onPath .notDirectory p.text)⟩
    | .error e => ⟨t, some e⟩

end Tree

end CrudQueries.Files
