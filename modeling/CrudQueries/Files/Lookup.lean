/-
  CrudQueries.Files.Lookup — what a path leads to.

  A path is walked name by name (`walk`). Two dots lead to the directory that holds the present
  one, whatever way led there. A link is replaced by its target, at most forty of them in one
  walk, except at the end of a path whose last link is itself meant. Before the end every name
  must lead to a directory.

  Resolving a path (`resolve`) replaces its links too, but takes names that lead nowhere as they
  are, and two dots after them back to where they stood.
-/

import CrudQueries.Files.Path
import CrudQueries.Files.Tree
import CrudQueries.Files.Trouble

namespace CrudQueries.Files

/-- The end of a walk: an entry, or a name that its directory does not have. -/
inductive Place where
  | found (place : Location) (entry : Entry)
  | missing (parent : Location) (name : String)

/-- The most links that one walk replaces. -/
def maxLinks : Nat := 40

/-- The most bytes that a name has. -/
def maxNameSize : Nat := 255

/-- The names in the target of a link. A slash or dot at its end asks for a directory, which a dot
  as the last name does too. -/
def targetNames (target : String) : List String :=
  let names := (Text.splitOnChar '/' target.toList).map String.ofList
  names.filter (!·.isEmpty) ++ (if names.getLast? == some "" then ["."] else [])

/-- Where the names of a link's target begin. -/
def targetStart (place : Location) (target : String) : Location :=
  if target.toList.head? == some '/' then [] else place

namespace Tree

/-- Walks from a directory along names, with `links` links left; the last link is itself meant
  unless `follow` is set. -/
def walk (t : Tree) (follow : Bool) (links : Nat) (place : Location) (names : List String) : Except Cause Place :=
  match names with
  | [] => .ok (.found place .dir)
  | name :: rest =>
    if name == "." then t.walk follow links place rest
    else if name == ".." then t.walk follow links place.dropLast rest
    else if name.utf8ByteSize > maxNameSize then .error .nameTooLong
    else
      match t.get? (place ++ [name]) with
      | none => if rest.isEmpty then .ok (.missing place name) else .error .noEntry
      | some .dir => t.walk follow links (place ++ [name]) rest
      | some (.file bytes) =>
        if rest.isEmpty then .ok (.found (place ++ [name]) (.file bytes)) else .error .notDirectory
      | some (.link target) =>
        if rest.isEmpty && !follow then .ok (.found (place ++ [name]) (.link target))
        else
          match links with
          | 0 => .error .tooManyLinks
          | links + 1 => t.walk follow links (targetStart place target) (targetNames target ++ rest)
termination_by (links, names.length)

/-- Where a path begins. -/
def startOf (t : Tree) (p : Path) : Location := if p.isAbsolute then [] else t.here

/-- Does a name of the path hold a null character, which no name can? -/
def hasNull (p : Path) : Bool := p.parts.any fun part => part.toList.contains '\x00'

/-- What a path leads to. -/
def find (t : Tree) (follow : Bool) (p : Path) : Except Trouble Place :=
  if hasNull p then .error .nullCharacter
  else (t.walk follow maxLinks (t.startOf p) p.parts).mapError fun cause => .onPath cause p.text

/-- The entry that a path leads to, if there is one. -/
def entry? (t : Tree) (p : Path) : Except Trouble (Option Entry) :=
  if hasNull p then .ok none
  else
    match t.walk true maxLinks (t.startOf p) p.parts with
    | .ok (.found _ entry) => .ok (some entry)
    | .ok (.missing _ _) => .ok none
    | .error cause => if cause.isAbsence then .ok none else .error (.onPath cause p.text)

def Entry.isDir : Entry → Bool
  | .dir => true
  | _ => false

def Entry.isFile : Entry → Bool
  | .file _ => true
  | _ => false

/-- The bytes of the file that a path leads to. -/
def read (t : Tree) (p : Path) : Except Trouble ByteArray := do
  match ← t.find true p with
  | .found _ (.file bytes) => .ok bytes
  | .found _ _ => .error (.onPath .isDirectory p.text)
  | .missing _ _ => .error (.onPath .noEntry p.text)

/-! ## Resolving -/

/-- The location that names lead to, each link replaced once within itself. A link inside its own
  replacement leaves it and all names after it as they are. -/
def resolveNames (t : Tree) (fuel : Nat) (within : List Location) (place : Location) (names : List String) :
    Except (List String) Location :=
  match names with
  | [] => .ok place
  | name :: rest =>
    if name == "." then t.resolveNames fuel within place rest
    else if name == ".." then t.resolveNames fuel within place.dropLast rest
    else
      match t.get? (place ++ [name]) with
      | some (.link target) =>
        if within.contains (place ++ [name]) then .error (place ++ [name] ++ rest)
        else
          match fuel with
          | 0 => .error (place ++ [name] ++ rest)
          | fuel + 1 =>
            match t.resolveNames fuel ((place ++ [name]) :: within) (targetStart place target)
                (targetNames target) with
            | .ok place => t.resolveNames (fuel + 1) within place rest
            | .error names => .error (names ++ rest)
      | _ => t.resolveNames fuel within (place ++ [name]) rest
termination_by (fuel, names.length)

/-- The location that names describe when every name before two dots is taken back. -/
def plainLocation (start : Location) (names : List String) : Location :=
  names.foldl (fun place name =>
    if name == "." then place else if name == ".." then place.dropLast else place ++ [name]) start

/-- The absolute path without links that a path leads to. -/
def resolve (t : Tree) (p : Path) : Except Trouble Path :=
  if hasNull p then .error .nullCharacter
  else
    match t.resolveNames t.entries.length [] (t.startOf p) p.parts with
    | .ok place => .ok ⟨"/", place⟩
    | .error names =>
      let path : Path := ⟨"/", plainLocation [] names⟩
      match t.walk true maxLinks [] path.parts with
      | .error .tooManyLinks => .error (.linkLoop path.text)
      | _ => .ok path

end Tree

end CrudQueries.Files
