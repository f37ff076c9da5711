/-
  CrudQueries.Data.Yaml.Token — the pieces of a YAML text, and what can be wrong with one.

  Indentation shows in the tokens as the beginnings and ends of blocks. A text that cannot be
  cut into tokens to its end has its fault as the last token.
-/

import CrudQueries.Data.Calendar
import CrudQueries.Text.Shown

namespace CrudQueries.Data.Yaml

-- Powers are those of the core library, whatever else is imported.
attribute [local instance (high)] instPowNat

/-- Why a text has no value. Only `malformed` is a matter of form; the others come from the
  values that well-formed text names. -/
inductive ReadError where
  | malformed
  | character (code : Nat)
  | calendar (e : CalendarError)
  | noMoment
  | noDigits
  | whole (base : Nat) (text : String)
  | longNumber (digits : Nat)
  | fraction (text : String)
  | truth (text : String)
  deriving DecidableEq, Repr

namespace ReadError

/-- The name of the kind of an error. -/
def kind : ReadError → String
  | malformed => "YAMLError"
  | character code => if code < 2 ^ (31 : Nat) then "ValueError" else "OverflowError"
  | noMoment => "AttributeError"
  | noDigits => "IndexError"
  | truth _ => "KeyError"
  | calendar _ | whole _ _ | longNumber _ | fraction _ => "ValueError"

def message : ReadError → String
  | malformed => "syntax error"
  | character code =>
    if code < 2 ^ (31 : Nat) then "chr() arg not in range(0x110000)" else "Python int too large to convert to C int"
  | calendar e => e.message
  | noMoment => "'NoneType' object has no attribute 'groupdict'"
  | noDigits => "string index out of range"
  | whole base text =>
    "invalid literal for int() with base " ++ toString base ++ ": "
      ++ String.ofList ((Text.shown text).toList.take 200)
  | longNumber digits =>
    "Exceeds the limit (4300 digits) for integer string conversion: value has " ++ toString digits
      ++ " digits; use sys.set_int_max_str_digits() to increase the limit"
  | fraction text => "could not convert string to float: " ++ Text.shown text
  | truth text => Text.shown text

end ReadError

/-- A line before a document that says how to read it. -/
inductive Directive where
  | version (major minor : Nat)
  | handle (name expansion : String)
  | other
  deriving DecidableEq, Repr

inductive Token where
  | directive (d : Directive)
  | documentStart
  | documentEnd
  | blockSequence
  | blockMapping
  | blockEnd
  | flowSequence
  | flowSequenceEnd
  | flowMapping
  | flowMappingEnd
  | entry
  | comma
  | key
  | value
  | reference (name : String)
  | anchor (name : String)
  | tag (handle : Option String) (suffix : String)
  | scalar (text : String) (plain : Bool)
  | streamEnd
  | fault (e : ReadError)
  deriving DecidableEq, Repr

end CrudQueries.Data.Yaml
