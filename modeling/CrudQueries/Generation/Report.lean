/-
  CrudQueries.Generation.Report — what a run reports.

  A run succeeds when it has no errors of any stage; warnings and types that were passed over do
  not count. The exit code names the first stage that had errors.
-/

import CrudQueries.Export.Inventory
import CrudQueries.Number.Decimal
import CrudQueries.Query.Artifacts
import CrudQueries.Text.Figures
import CrudQueries.Validation.Diagnostic

namespace CrudQueries.Generation

open CrudQueries.Number (Binary64)

/-- A stage of a run. -/
structure Stage where
  name : String
  success : Bool
  seconds : Binary64 := Binary64.zero false
  detail : String
  deriving DecidableEq, Repr

structure Report where
  success : Bool := false
  language : String := ""
  output : String := ""
  totalFiles : Int := 0
  totalBytes : Int := 0
  totalLines : Int := 0
  totalEntities : Int := 0
  seconds : Binary64 := Binary64.zero false
  stages : List Stage := []
  inputErrors : List String := []
  validationErrors : List String := []
  validationWarnings : List String := []
  generationErrors : List String := []
  exportErrors : List String := []
  generated : List String := []
  skipped : List String := []
  validation : Option Validation.Diagnostics := none
  files : List (String × String) := []
  artifacts : List (String × Query.Artifacts) := []
  inventory : Option Export.Inventory := none

namespace Report

/-- Does no stage have an error? -/
def hasNoErrors (r : Report) : Bool :=
  r.inputErrors.isEmpty && r.validationErrors.isEmpty && r.generationErrors.isEmpty && r.exportErrors.isEmpty

/-! ## Exit codes -/

def validationFailed : Nat := 1
def generationFailed : Nat := 2
def exportFailed : Nat := 3
def inputFailed : Nat := 4

/-- The exit code of a run. -/
def exitCode (r : Report) : Nat :=
  if r.success then 0
  else if !r.inputErrors.isEmpty then inputFailed
  else if !r.validationErrors.isEmpty then validationFailed
  else if !r.generationErrors.isEmpty then generationFailed
  else if !r.exportErrors.isEmpty then exportFailed
  else generationFailed

/-! ## Summary -/

def thickRule : String := "".pushn '=' 60

def thinRule : String := "".pushn '─' 60

def stageLine (s : Stage) : String :=
  "    " ++ (if s.success then "✓" else "✗") ++ " " ++ Text.padRight 22 s.name ++ " "
    ++ Text.padLeft 7 (s.seconds.fixed 3) ++ "s  " ++ s.detail

/-- A titled list, each item after a sign; nothing if it is empty. -/
def listLines (title sign : String) (items : List String) : List String :=
  if items.isEmpty then []
  else [thinRule, "  " ++ title ++ " (" ++ toString items.length ++ "):"]
    ++ items.map fun item => "    " ++ sign ++ " " ++ item

/-- The report as text for a reader. -/
def summary (r : Report) : String :=
  Text.joinLines (
    [thickRule, "  queryfields - Generation Report", thickRule,
      "  Status:           " ++ (if r.success then "SUCCESS" else "FAILED"),
      "  Language:         " ++ r.language,
      "  Output:           " ++ (if r.output.isEmpty then "(not written)" else r.output),
      "  Entities found:   " ++ toString r.totalEntities,
      "  Entities emitted: " ++ toString r.generated.length,
      "  Files generated:  " ++ toString r.totalFiles,
      "  Total lines:      " ++ Text.grouped r.totalLines,
      "  Total bytes:      " ++ Text.grouped r.totalBytes,
      "  Total time:       " ++ r.seconds.fixed 3 ++ "s",
      thinRule]
    ++ (if r.stages.isEmpty then [] else "  Pipeline Steps:" :: r.stages.map stageLine)
    ++ listLines "Input Errors" "✗" r.inputErrors
    ++ listLines "Validation Errors" "✗" r.validationErrors
    ++ listLines "Validation Warnings" "⚠" r.validationWarnings
    ++ listLines "Generation Errors" "✗" r.generationErrors
    ++ listLines "Export Errors" "✗" r.exportErrors
    ++ listLines "Skipped Entities" "⊘" r.skipped
    ++ [thickRule])

end Report

end CrudQueries.Generation
