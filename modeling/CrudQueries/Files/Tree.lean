/-
  CrudQueries.Files.Tree — files, directories and links by location.

  A location is the list of names that lead from the root to an entry through directories
  alone, so no entry has two locations. The root is a directory and is not listed. A directory
  that holds something is listed like an empty one. Relative paths begin at `here`.
-/

import CrudQueries.Data.Entries

namespace CrudQueries.Files

-- Lists and bytes are compared as the core library does, whatever else is imported.
attribute [local instance (high)] List.instLE ByteArray.instDecidableEq

abbrev Location := List String

inductive Entry where
  | file (bytes : ByteArray)
  | dir
  | link (target : String)
  deriving DecidableEq

structure Tree where
  here : Location := []
  entries : List (Location × Entry) := []

namespace Tree

/-- The entry at a location. -/
def get? (t : Tree) (place : Location) : Option Entry :=
  if place.isEmpty then some .dir else Data.Entries.get? t.entries place

/-- The tree with an entry at a location, in the place of what was there. -/
def put (t : Tree) (place : Location) (entry : Entry) : Tree :=
  { t with entries := Data.Entries.put t.entries place entry }

/-- The tree without a location and all that lies below it. -/
def remove (t : Tree) (place : Location) : Tree :=
  { t with entries := t.entries.filter fun (p, _) => !place.isPrefixOf p }

/-- Does `p` lie below `place`? -/
def isBelow (place p : Location) : Bool := place.isPrefixOf p && place.length < p.length

/-- The tree with nothing below a location. -/
def empty (t : Tree) (place : Location) : Tree :=
  { t with entries := t.entries.filter fun (p, _) => !isBelow place p }

/-- All that lies below a location, by the names that lead to it from there, in the order of
  the names. -/
def below (t : Tree) (place : Location) : List (Location × Entry) :=
  let inside := t.entries.filter fun (p, _) => isBelow place p
  (inside.map fun (p, e) => (p.drop place.length, e)).mergeSort fun (p, _) (q, _) => decide (p ≤ q)

/-- The names in the directory at a location, in order. -/
def names (t : Tree) (place : Location) : List String :=
  (t.below place).filterMap fun
    | ([name], _) => some name
    | _ => none

end Tree

end CrudQueries.Files
