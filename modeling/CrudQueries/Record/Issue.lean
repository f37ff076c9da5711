/-
  CrudQueries.Record.Issue — what is wrong with a record, and where.

  An issue has a kind and a place: the names and positions that lead from the record to the
  value. All issues of a record are kept, fields first in the order of their declaration, then
  unknown names in the order of the input. `Rejection.text` writes them for a message.
-/

namespace CrudQueries.Record

/-- One step on the way to a value. -/
inductive Step where
  | name (s : String)
  | index (n : Nat)
  | number (n : Int)
  deriving DecidableEq, Repr

/-- A step in a text; a name that holds a dot stands between backquotes. -/
def Step.text : Step → String
  | .name s => if s.toList.contains '.' then "`" ++ s ++ "`" else s
  | .index n => toString n
  | .number n => toString n

/-- What can be wrong with a value. -/
inductive Flaw where
  | missing
  | unknown
  | text
  | textEncoding
  | shortText
  | tuple
  | list
  | whole
  | wholeText
  | wholeSize
  | wholeFraction
  | finite
  | atLeast (n : Int)
  | truth
  | truthText
  | language
  | key
  | record (model : String)
  | frozen
  | noAttribute (name : String)
  deriving DecidableEq, Repr

/-- The short name of a flaw. -/
def Flaw.code : Flaw → String
  | .missing => "missing"
  | .unknown => "extra_forbidden"
  | .text => "string_type"
  | .textEncoding => "string_unicode"
  | .shortText => "string_too_short"
  | .tuple => "tuple_type"
  | .list => "list_type"
  | .whole => "int_type"
  | .wholeText => "int_parsing"
  | .wholeSize => "int_parsing_size"
  | .wholeFraction => "int_from_float"
  | .finite => "finite_number"
  | .atLeast _ => "greater_than_equal"
  | .truth => "bool_type"
  | .truthText => "bool_parsing"
  | .language => "enum"
  | .key => "invalid_key"
  | .record _ => "model_type"
  | .frozen => "frozen_instance"
  | .noAttribute _ => "no_such_attribute"

def Flaw.message : Flaw → String
  | .missing => "Field required"
  | .unknown => "Extra inputs are not permitted"
  | .text => "Input should be a valid string"
  | .textEncoding => "Input should be a valid string, unable to parse raw data as a unicode string"
  | .shortText => "String should have at least 1 character"
  | .tuple => "Input should be a valid tuple"
  | .list => "Input should be a valid list"
  | .whole => "Input should be a valid integer"
  | .wholeText => "Input should be a valid integer, unable to parse string as an integer"
  | .wholeSize => "Unable to parse input string as an integer, exceeded maximum size"
  | .wholeFraction => "Input should be a valid integer, got a number with a fractional part"
  | .finite => "Input should be a finite number"
  | .atLeast n => "Input should be greater than or equal to " ++ toString n
  | .truth => "Input should be a valid boolean"
  | .truthText => "Input should be a valid boolean, unable to interpret input"
  | .language => "Input should be 'python' or 'csharp'"
  | .key => "Keys should be strings"
  | .record model => "Input should be a valid dictionary or instance of " ++ model
  | .frozen => "Instance is frozen"
  | .noAttribute name => "Object has no attribute '" ++ name ++ "'"

structure Issue where
  flaw : Flaw
  place : List Step
  deriving DecidableEq, Repr

/-- The issue seen from one step further out. -/
def Issue.inside (step : Step) (issue : Issue) : Issue := { issue with place := step :: issue.place }

/-- The place on a line of its own, if there is one, and below it the message with the code. -/
def Issue.text (issue : Issue) : String :=
  let place := if issue.place.isEmpty then ""
    else "\n" ++ ".".intercalate (issue.place.map Step.text)
  place ++ "\n  " ++ issue.flaw.message ++ " [type=" ++ issue.flaw.code ++ "]"

/-- A record that was refused: the model that it should follow, and all that is wrong with it. -/
structure Rejection where
  model : String
  issues : List Issue
  deriving DecidableEq, Repr

def Rejection.text (r : Rejection) : String :=
  let count := r.issues.length
  toString count ++ (if count == 1 then " validation error for " else " validation errors for ")
    ++ r.model ++ String.join (r.issues.map Issue.text)

end CrudQueries.Record
