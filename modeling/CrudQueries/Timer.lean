/-
  CrudQueries.Timer — the time between two readings of a clock, in seconds.
-/

import CrudQueries.Number.Decimal

namespace CrudQueries

open CrudQueries.Number (Binary64)

structure Timer where
  label : String := "operation"
  start : Binary64
  stop : Binary64

namespace Timer

def elapsed (t : Timer) : Binary64 := t.stop.sub t.start

/-- The display of a timer: label and time to four places. -/
def shown (t : Timer) : String := "<Timer " ++ t.label ++ ": " ++ t.elapsed.fixed 4 ++ "s>"

end Timer

end CrudQueries
