/-
  CrudQueries.Discovery.Scan — the marked classes of one source.

  The source is read but never run. Each class with a marker among its decorators is an entity,
  described by the first marker; how often it is marked is counted.
-/

import CrudQueries.Discovery.FieldValues
import CrudQueries.Entity
import CrudQueries.Fragment.Marker
import CrudQueries.Source.Outline
import CrudQueries.Source.Statement

namespace CrudQueries.Discovery

/-- Why a source has no classes to look at. -/
inductive ScanError where
  | nullCharacter
  | malformed (fileName : String)
  deriving DecidableEq, Repr

def ScanError.message : ScanError → String
  | .nullCharacter => "source code string cannot contain null bytes"
  | .malformed fileName => "Cannot parse " ++ fileName ++ ": syntax error (line 0)"

/-- Where a source comes from. -/
structure Origin where
  fileName : String := "<string>"
  modulePath : Option String := none
  package : Option String := none
  deriving DecidableEq, Repr

/-- A marked class: its entity, and the line of the marker if that has arguments with names,
  which are ignored. -/
structure Finding where
  entity : Entity
  namedArgumentsLine : Option Nat
  deriving DecidableEq, Repr

/-- The entity of a class whose markers are `marker` and `count - 1` others. -/
def entityOf (origin : Origin) (c : Source.ClassDef) (marker : Source.Expr) (count : Nat) : Entity where
  typeName := c.name
  table := Source.assignedText Fragment.tableMember c.body
  fields := fieldNames marker.markerArguments
  malformed := (missingPositions marker.markerArguments).map Int.ofNat
  markerCount := count
  sourceFile := some origin.fileName
  line := some c.line
  modulePath := origin.modulePath
  package := origin.package

/-- What a class is found to be; nothing if it is not marked. -/
def finding? (marker : String) (origin : Origin) (c : Source.ClassDef) : Option Finding :=
  match c.markers marker with
  | [] => none
  | first :: others =>
    some ⟨entityOf origin c first (others.length + 1), first.namedArgumentsLine?⟩

/-- The marked classes of a source, in its order. -/
def scan (source marker : String) (origin : Origin) : Except ScanError (List Finding) :=
  if source.toList.contains '\x00' then .error .nullCharacter
  else
    match Source.read? source with
    | none => .error (.malformed origin.fileName)
    | some body => .ok ((Source.Stmt.classesOf body).filterMap (finding? marker origin))

end CrudQueries.Discovery
