/-
  CrudQueries.Files.Reading — the text of a file, every line end as one line feed.
-/

import CrudQueries.Files.Lookup
import CrudQueries.Text.Lines
import CrudQueries.Text.Utf8

namespace CrudQueries.Files

/-- Why a file has no text. -/
inductive ReadError where
  | trouble (e : Trouble)
  | undecodable (fault : Text.Utf8.Fault)
  deriving DecidableEq

namespace ReadError

def kind : ReadError → String
  | trouble e => e.kind
  | undecodable _ => "UnicodeDecodeError"

def message : ReadError → String
  | trouble e => e.message
  | undecodable fault => fault.message

end ReadError

/-- The text of the file that a path leads to. -/
def Tree.readText (t : Tree) (p : Path) : Except ReadError String := do
  let bytes ← (t.read p).mapError .trouble
  let text ← (Text.Utf8.decode bytes).mapError .undecodable
  .ok (String.ofList (Text.normalNewlines text.toList))

end CrudQueries.Files
