/-
  CrudQueries.Files.Path — paths as texts name them.

  A path has a root, which is empty for a relative one, and parts. Empty parts and single dots
  are dropped when a text is read; two dots stay, since what they lead to depends on links.
  Two slashes at the head are a root of their own, three or more are one.
-/

import CrudQueries.Text.Shown
import CrudQueries.Text.Words

namespace CrudQueries.Files

structure Path where
  root : String
  parts : List String
  deriving DecidableEq, Repr

/-- The parts of a text between slashes, without empty ones and single dots. -/
def partsOf (text : String) : List String :=
  ((Text.splitOnChar '/' text.toList).filter fun part => part != [] && part != ['.']).map String.ofList

/-- The root at the head of a text. -/
def rootOf (text : String) : String :=
  match text.toList with
  | '/' :: '/' :: '/' :: _ => "/"
  | '/' :: '/' :: _ => "//"
  | '/' :: _ => "/"
  | _ => ""

namespace Path

/-- The path that a text names. -/
def ofText (text : String) : Path := ⟨rootOf text, partsOf text⟩

def isAbsolute (p : Path) : Bool := !p.root.isEmpty

/-- The text of a path; the empty relative path is a dot. -/
def text (p : Path) : String :=
  let body := p.root ++ "/".intercalate p.parts
  if body.isEmpty then "." else body

/-- The display of a path. -/
def shown (p : Path) : String := "PosixPath(" ++ Text.shown p.text ++ ")"

/-- The last part, if there is one. -/
def name (p : Path) : String := p.parts.getLast?.getD ""

/-- The path without its last part. -/
def parent (p : Path) : Path := { p with parts := p.parts.dropLast }

/-- The path of `q` seen from `p`; an absolute `q` stands for itself. -/
def join (p q : Path) : Path := if q.isAbsolute then q else { p with parts := p.parts ++ q.parts }

/-- A name before its last dot, and from that dot on. A dot at either end parts nothing. -/
def splitSuffix (name : String) : String × String :=
  let cs := name.toList
  let tail := (cs.reverse.takeWhile (· != '.')).reverse
  let stem := cs.take (cs.length - tail.length - 1)
  if tail.isEmpty || stem.isEmpty || tail.length == cs.length then (name, "")
  else (String.ofList stem, String.ofList ('.' :: tail))

/-- The last dot of the name and what follows it. -/
def suffix (p : Path) : String := (splitSuffix p.name).2

/-- The path without the suffix of its name; nothing if it has no name. -/
def withoutSuffix? (p : Path) : Option Path :=
  if p.parts.isEmpty then none
  else some { p with parts := p.parts.dropLast ++ [(splitSuffix p.name).1] }

/-- The path seen from `base`, which must lead to it part by part. -/
def relativeTo? (p base : Path) : Option Path :=
  if p.root == base.root && base.parts.isPrefixOf p.parts then some ⟨"", p.parts.drop base.parts.length⟩
  else none

/-- Does `base` lead to `p`, or is it `p`? -/
def isWithin (p base : Path) : Bool := (p.relativeTo? base).isSome

end Path

end CrudQueries.Files
