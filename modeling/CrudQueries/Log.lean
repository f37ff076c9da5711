/-
  CrudQueries.Log — notes that a run makes for its reader.

  A note has a level and a channel. A log shows the notes from one level on.
-/

import CrudQueries.Text.Figures

namespace CrudQueries.Log

inductive Level where
  | debug
  | info
  | warning
  | error
  deriving DecidableEq, Repr

namespace Level

def name : Level → String
  | debug => "DEBUG"
  | info => "INFO"
  | warning => "WARNING"
  | error => "ERROR"

def rank : Level → Nat
  | debug => 0
  | info => 1
  | warning => 2
  | error => 3

end Level

structure Note where
  level : Level
  channel : String
  text : String
  deriving DecidableEq, Repr

/-- Is the note shown in a log from `least` on? -/
def Note.isShown (least : Level) (n : Note) : Bool := least.rank ≤ n.level.rank

/-- The line of a note that is made at `time`. -/
def Note.line (time : String) (n : Note) : String :=
  time ++ " │ " ++ Text.padRight 8 n.level.name ++ " │ " ++ n.channel ++ " │ " ++ n.text

end CrudQueries.Log
