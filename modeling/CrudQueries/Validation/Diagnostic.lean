/-
  CrudQueries.Validation.Diagnostic — what validation has to say.

  A diagnostic has a level, a code, a message and a context. A diagnostic about an entity has
  that entity's position in its context under `index`. Diagnostics are collected in order; they
  are fine together when none is an error.
-/

import CrudQueries.Data.Value
import CrudQueries.Text.Case

namespace CrudQueries.Validation

open CrudQueries.Data (Value)

inductive Level where
  | error
  | warning
  | info
  | other (name : String)
  deriving DecidableEq, Repr

def Level.name : Level → String
  | .error => "error"
  | .warning => "warning"
  | .info => "info"
  | .other name => name

/-- The level of a name. -/
def Level.ofName : String → Level
  | "error" => .error
  | "warning" => .warning
  | "info" => .info
  | name => .other name

def Level.icon : Level → String
  | .error => "✗"
  | .warning => "⚠"
  | .info => "ℹ"
  | .other _ => "•"

structure Diagnostic where
  level : Level
  code : String
  message : String
  context : List (Value × Value) := []

namespace Diagnostic

def isError (d : Diagnostic) : Bool := d.level == .error

def isWarning (d : Diagnostic) : Bool := d.level == .warning

/-- The position of the entity that the diagnostic is about. -/
def entityIndex? (d : Diagnostic) : Option Value :=
  match Value.field? d.context "index" with
  | some .null => none
  | index => index

/-- Is it an error about the entity at `index`? -/
def condemns (d : Diagnostic) (index : Nat) : Bool :=
  d.isError && match d.entityIndex? with
    | some i => Value.sameKey i (.int index)
    | none => false

/-- Level, code and message on one line. -/
def text (d : Diagnostic) : String :=
  "[" ++ Text.upper d.level.name ++ "] " ++ d.code ++ ": " ++ d.message

end Diagnostic

/-- Diagnostics in the order in which they were made. -/
abbrev Diagnostics := List Diagnostic

namespace Diagnostics

def errors (ds : Diagnostics) : List Diagnostic := ds.filter (·.isError)

def warnings (ds : Diagnostics) : List Diagnostic := ds.filter (·.isWarning)

def hasErrors (ds : Diagnostics) : Bool := ds.any (·.isError)

def hasWarnings (ds : Diagnostics) : Bool := ds.any (·.isWarning)

def isValid (ds : Diagnostics) : Bool := !hasErrors ds

/-- Is there an error about the entity at `index`? -/
def condemn (ds : Diagnostics) (index : Nat) : Bool := ds.any (·.condemns index)

/-- Does `a` come before `b` among positions? Whole numbers by size, all else as it is. -/
def before (a b : Value) : Bool :=
  match a.whole?, b.whole? with
  | some m, some n => m ≤ n
  | _, _ => true

/-- The positions of the entities with errors, each once, in ascending order. -/
def invalidIndexes (ds : Diagnostics) : List Value :=
  let indexes := (errors ds).filterMap (·.entityIndex?)
  let distinct := indexes.foldl (fun seen i => if seen.any (Value.sameKey i) then seen else seen ++ [i]) []
  distinct.mergeSort before

/-- Is there an error that is not about any one entity? -/
def hasGlobalErrors (ds : Diagnostics) : Bool := (errors ds).any (·.entityIndex?.isNone)

/-- The counts in one line. -/
def summary (ds : Diagnostics) : String :=
  "Validation: " ++ toString (errors ds).length ++ " error(s), " ++ toString (warnings ds).length
    ++ " warning(s), " ++ toString ds.length ++ " total item(s)."

/-- The summary, and below it each diagnostic; those of level info only if asked for. -/
def report (ds : Diagnostics) (withInfo : Bool) : String :=
  let kept := ds.filter fun d => withInfo || d.level != .info
  "\n".intercalate ([summary ds, ""] ++ kept.map fun d =>
    "  " ++ d.level.icon ++ " [" ++ d.code ++ "] " ++ d.message)

/-- The display of diagnostics. -/
def shown (ds : Diagnostics) : String := "<ValidationResult " ++ summary ds ++ ">"

end Diagnostics

end CrudQueries.Validation
