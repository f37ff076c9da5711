/-
  CrudQueries.Generation.Run — a run from its input to its report.

  A run collects entities, validates them, renders their fragments and, if an output directory is
  given, exports the files. It goes no further than the first stage that stops it: an input that
  cannot be used, or validation errors; without strictness only errors of the settings stop it and
  the entities at fault are passed over, and warnings stop it if they are to count as errors. The
  output directory is not cleared if that would remove an input.

  The run keeps what every stage came to; the report (`Run.report`) is read off it.
-/

import CrudQueries.Discovery.Search
import CrudQueries.Export.Run
import CrudQueries.Fragment.Render
import CrudQueries.Generation.Report
import CrudQueries.Manifest.Content
import CrudQueries.Validation.Full

namespace CrudQueries.Generation

open CrudQueries.Data
open CrudQueries.Files (Path Tree Trouble)

-- An empty sum is the numeral, whatever else is imported.
attribute [local instance (high)] Zero.ofOfNat0

structure Options where
  strict : Bool := true
  failOnWarnings : Bool := false
  clean : Bool := false
  writeInventory : Bool := true
  validateOnly : Bool := false
  deriving DecidableEq, Repr

/-- Where the entities of a run come from. -/
inductive Input where
  | given (entities : List Entity) (settings : Settings)
  | sources (paths : List Path) (settings : Settings)
  | manifest (path : Path) (overrides : Manifest.Mapping)

/-- The paths that an input is read from. -/
def Input.paths : Input → List Path
  | .given _ _ => []
  | .sources paths _ => paths
  | .manifest path _ => [path]

/-! ## What the stages come to -/

/-- An input that clearing the output directory would remove. -/
structure Conflict where
  output : Path
  input : Path
  deriving DecidableEq, Repr

def Conflict.message (c : Conflict) : String :=
  "Refusing to clean " ++ c.output.text ++ ": it contains the input " ++ c.input.text
    ++ ". Write to a separate directory or drop --clean."

/-- A manifest as far as it could be read. -/
structure Loading where
  path : Path
  document : Except Manifest.DocumentError Manifest.Mapping
  /-- The suffix that did not say how to read the file. -/
  unknownSuffix : Option String
  outline : Option (Except Manifest.ContentError Manifest.Outline)
  content : Option (Except Manifest.ContentError (Manifest × Settings))

/-- Why a manifest could not be used. -/
def Loading.failure? (l : Loading) : Option String :=
  match l.document, l.outline, l.content with
  | .error e, _, _ => some e.message
  | _, some (.error e), _ => some e.message
  | _, _, some (.error e) => some e.message
  | _, _, _ => none

/-- What the entities were collected from. -/
inductive Intake where
  | given
  | searched (search : Discovery.Search)
  | loaded (loading : Loading)

/-- What became of one entity while the fragments were rendered. -/
inductive Fate where
  | invalid
  | noFields
  | failed (e : Fragment.RenderError)
  | rendered (files : List (String × String)) (artifacts : Option Query.Artifacts)

/-- The fragments of a run: what became of each entity, and all files by path. -/
structure Synthesis where
  fates : List (Entity × Fate)
  files : List (String × String)

/-- Why validation stopped a run. -/
inductive Abort where
  | errors
  | warnings
  deriving DecidableEq, Repr

structure Run where
  options : Options
  output : Option Path := none
  conflict : Option Conflict := none
  intake : Option Intake := none
  /-- The entities and settings that the stages after the intake work on. -/
  work : Option (List Entity × Settings) := none
  validation : Option Validation.Diagnostics := none
  abort : Option Abort := none
  synthesis : Option Synthesis := none
  exported : Option Export.Run := none

/-- The kind and message of what ends a run without a report. -/
structure Fault where
  kind : String
  message : String
  deriving DecidableEq, Repr

def Fault.ofTrouble (e : Trouble) : Fault := ⟨e.kind, e.message⟩

/-! ## Input -/

/-- Loads the manifest at a path. -/
def load (t : Tree) (path : Path) (overrides : Manifest.Mapping) : Loading :=
  let document := Manifest.loadDocument t path
  let suffix := Manifest.suffixOf path
  let outline := document.toOption.map Manifest.outline
  { path, document, outline
    unknownSuffix := match Manifest.checkFile t path with
      | .ok () => if Manifest.isKnownSuffix suffix then none else some suffix
      | .error _ => none
    content := (outline.bind Except.toOption).map fun o => o.read (some path.text) overrides }

/-- The first input that lies in the output directory, or is it. -/
def conflict? (t : Tree) (output : Path) : List Path → Except Trouble (Option Conflict)
  | [] => .ok none
  | path :: rest => do
    let input ← t.resolve path
    if input.isWithin output then .ok (some ⟨output, input⟩) else conflict? t output rest

/-- Would clearing the output directory remove an input? -/
def checkClean (t : Tree) (options : Options) (output : Option Path) (inputs : List Path) :
    Except Trouble (Option Conflict) :=
  match output with
  | none => .ok none
  | some output =>
    if !options.clean || options.validateOnly then .ok none else conflict? t output inputs

/-! ## Fragments -/

/-- What becomes of the entity at a position: one with an error is passed over. -/
def fateOf (settings : Settings) (ds : Validation.Diagnostics) (index : Nat) (e : Entity) : Fate :=
  if ds.condemn index then .invalid
  else if e.fields.isEmpty then .noFields
  else
    match Fragment.fileOf settings e with
    | .error error => .failed error
    | .ok files => .rendered files ((Fragment.knownTable? e).bind fun table =>
        (Query.Artifacts.build e.typeName e.fields table).toOption)

/-- Renders the marker declaration and the fragments of all valid entities. -/
def synthesise (settings : Settings) (ds : Validation.Diagnostics) (entities : List Entity) : Synthesis :=
  let fates := entities.zipIdx.map fun (e, index) => (e, fateOf settings ds index e)
  let files := fates.flatMap fun
    | (_, .rendered files _) => files
    | _ => []
  ⟨fates, Entries.putAll [(Fragment.markerPath settings, Fragment.markerText settings)] files⟩

namespace Synthesis

def generated (s : Synthesis) : List String := s.fates.filterMap fun
  | (e, .rendered _ _) => some e.typeName
  | _ => none

def skipped (s : Synthesis) : List String := s.fates.filterMap fun
  | (e, .invalid) => some (e.typeName ++ " (invalid)")
  | (e, .noFields) => some (e.typeName ++ " (no fields)")
  | _ => none

def errors (s : Synthesis) : List String := s.fates.filterMap fun
  | (e, .failed error) => some (e.typeName ++ ": ValueError: " ++ error.message)
  | _ => none

/-- The artifacts of the types, by name; of types with one name the last one's. -/
def artifacts (s : Synthesis) : List (String × Query.Artifacts) :=
  Entries.putAll [] (s.fates.filterMap fun
    | (e, .rendered _ (some a)) => some (e.typeName, a)
    | _ => none)

def generatedFiles (s : Synthesis) : List GeneratedFile :=
  s.files.map fun (path, content) => .of path content

def detail (s : Synthesis) : String :=
  toString s.files.length ++ " file(s), " ++ toString s.generated.length ++ " entit(y/ies)"

end Synthesis

/-! ## Stages -/

/-- Why validation stops a run, if it does. -/
def abort? (options : Options) (ds : Validation.Diagnostics) : Option Abort :=
  if ds.hasErrors && (options.strict || ds.hasGlobalErrors) then some .errors
  else if ds.hasWarnings && options.failOnWarnings then some .warnings
  else none

/-- The options of the export of a run. -/
def exportOptions (options : Options) : Export.Options :=
  { clean := options.clean, inventory := options.writeInventory }

/-- The stages after the entities have been collected. -/
def process (t : Tree) (r : Run) (entities : List Entity) (settings : Settings) : Tree × Run :=
  let ds := Validation.full entities settings
  let abort := abort? r.options ds
  let r := { r with work := some (entities, settings), validation := some ds, abort }
  if abort.isSome || r.options.validateOnly then (t, r)
  else
    let s := synthesise settings ds entities
    let r := { r with synthesis := some s }
    match r.output with
    | none => (t, r)
    | some output =>
      let (t, x) := Export.run t settings (exportOptions r.options) output s.files
      (t, { r with exported := some x })

/-- What ends a run that has come this far without a report. -/
def Run.fault? (r : Run) : Option Fault :=
  match r.intake, r.exported with
  | some (.searched s), x =>
    match s.stop with
    | some (.trouble e) => some (.ofTrouble e)
    | _ => (x.bind (·.fault)).map .ofTrouble
  | some (.loaded l), x =>
    match l.document with
    | .error e => if e.isInputError then none else some ⟨e.kind, e.message⟩
    | .ok _ => (x.bind (·.fault)).map .ofTrouble
  | _, x => (x.bind (·.fault)).map .ofTrouble

/-- Collects the entities of an input and goes on with them, unless they cannot be collected. -/
def collect (t : Tree) (r : Run) : Input → Tree × Run
  | .given entities settings => process t { r with intake := some .given } entities settings
  | .sources paths settings =>
    let s := Discovery.search t settings paths
    let r := { r with intake := some (.searched s) }
    match s.stop with
    | some _ => (t, r)
    | none => process t r s.entities settings
  | .manifest path overrides =>
    let l := load t path overrides
    let r := { r with intake := some (.loaded l) }
    match l.content with
    | some (.ok (m, settings)) => process t r m.entities settings
    | _ => (t, r)

/-- A run, from a tree to what it leaves; nothing of it happens if the path of the output directory
  or of an input cannot be resolved. -/
def run (t : Tree) (options : Options) (input : Input) (output : Option Path) :
    Tree × Run × Option Fault :=
  match output.mapM (fun (p : Path) => t.resolve p) with
  | .error e => (t, { options }, some (.ofTrouble e))
  | .ok output =>
    let r : Run := { options, output }
    match checkClean t options output input.paths with
    | .error e => (t, r, some (.ofTrouble e))
    | .ok (some c) => (t, { r with conflict := some c }, none)
    | .ok none =>
      let (t, r) := collect t r input
      (t, r, r.fault?)

/-! ## Report -/

namespace Run

def inputErrors (r : Run) : List String :=
  (r.conflict.map (·.message)).toList ++ match r.intake with
    | some (.searched s) => (s.stop.map (·.message)).toList ++ (if s.stop.isSome then [] else s.errors)
    | some (.loaded l) => l.failure?.toList
    | _ => []

def intakeStage : Intake → List Stage
  | .given => []
  | .searched s =>
    let entities := if s.stop.isSome then 0 else s.entities.length
    let files := if s.stop.isSome then 0 else s.visits.length
    [{ name := "Discover Entities", success := s.stop.isNone && s.errors.isEmpty,
       detail := toString entities ++ " entit(y/ies) in " ++ toString files ++ " file(s)" }]
  | .loaded l =>
    [{ name := "Load Manifest", success := l.failure?.isNone, detail := l.failure?.getD l.path.name }]

def validationDetail (ds : Validation.Diagnostics) : String :=
  if ds.hasErrors then toString ds.errors.length ++ " error(s)"
  else if ds.hasWarnings then toString ds.warnings.length ++ " warning(s)"
  else "all checks passed"

/-- The message of warnings that count as errors. -/
def warningsAsErrors (ds : Validation.Diagnostics) : String :=
  toString ds.warnings.length ++ " warning(s) treated as errors."

def stages (r : Run) : List Stage :=
  (r.intake.map intakeStage).getD []
  ++ (r.validation.map fun ds =>
    { name := "Validate", success := ds.isValid, detail := validationDetail ds : Stage }).toList
  ++ (r.synthesis.map fun s =>
    { name := "Synthesize", success := s.errors.isEmpty, detail := s.detail : Stage }).toList
  ++ (r.exported.map fun x =>
    { name := "Export", success := x.success,
      detail := toString x.inventory.totalFiles ++ " files, " ++ Text.grouped x.inventory.totalBytes
        ++ " bytes" : Stage }).toList

def validationErrors (r : Run) : List String :=
  match r.validation with
  | none => []
  | some ds => ds.errors.map (·.text) ++ (if r.abort == some .warnings then [warningsAsErrors ds] else [])

/-- The report of a run. -/
def report (r : Run) : Report :=
  let files := (r.synthesis.map (·.generatedFiles)).getD []
  let report : Report := {
    language := (r.work.map fun (_, settings) => settings.language.name).getD ""
    output := (r.output.map (·.text)).getD ""
    totalFiles := files.length
    totalBytes := (files.map (·.sizeBytes)).sum
    totalLines := (files.map (·.lineCount)).sum
    totalEntities := (r.work.map fun (entities, _) => entities.length).getD 0
    stages := r.stages
    inputErrors := r.inputErrors
    validationErrors := r.validationErrors
    validationWarnings := (r.validation.map fun ds => ds.warnings.map (·.text)).getD []
    generationErrors := (r.synthesis.map (·.errors)).getD []
    exportErrors := (r.exported.map (·.errors)).getD []
    generated := (r.synthesis.map (·.generated)).getD []
    skipped := (r.synthesis.map (·.skipped)).getD []
    validation := r.validation
    files := (r.synthesis.map (·.files)).getD []
    artifacts := (r.synthesis.map (·.artifacts)).getD []
    inventory := r.exported.map (·.inventory) }
  { report with success := report.hasNoErrors }

end Run

end CrudQueries.Generation
