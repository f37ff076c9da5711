/-
  CrudQueries.Generation.Journal — the notes that a run makes, in order.

  They are read off what the stages came to. No stage takes any time that shows.
-/

import CrudQueries.Generation.Run
import CrudQueries.Log

namespace CrudQueries.Generation.Journal

open CrudQueries.Log (Level Note)
open CrudQueries.Files (Path)

def generator (level : Level) (text : String) : Note := ⟨level, "queryfields.generator", text⟩

def discovery (level : Level) (text : String) : Note := ⟨level, "queryfields.discovery", text⟩

def validators (level : Level) (text : String) : Note := ⟨level, "queryfields.validators", text⟩

def exporters (level : Level) (text : String) : Note := ⟨level, "queryfields.exporters", text⟩

/-- The note at the end of a stage. -/
def timed (label : String) : Note :=
  ⟨.debug, "queryfields.utils", "Timer [" ++ label ++ "]: 0.0000 seconds"⟩

/-- A truth value in a note. -/
def word (b : Bool) : String := if b then "True" else "False"

/-- The note of a run's options. -/
def optionsNote (o : Options) : Note :=
  generator .debug ("QueryGenerator initialised: strict=" ++ word o.strict ++ ", fail_on_warnings="
    ++ word o.failOnWarnings ++ ", clean=" ++ word o.clean ++ ", validate_only=" ++ word o.validateOnly ++ ".")

/-! ## Input -/

def findingNotes (f : Discovery.Finding) : List Note :=
  (f.namedArgumentsLine.map fun line => discovery .warning
    ("Keyword arguments on the marker at line " ++ toString line ++ " are ignored.")).toList
  ++ [discovery .debug ("Discovered " ++ f.entity.shown ++ " at " ++ f.entity.location ++ ".")]

def visitNotes (v : Discovery.Visit) : List Note :=
  match v.outcome with
  | .ok found => found.flatMap findingNotes
  | .error _ => (v.error?.map fun message => discovery .error ("Discovery failed for " ++ message)).toList

def searchNotes (s : Discovery.Search) : List Note :=
  s.visits.flatMap visitNotes
  ++ (if s.stop.isSome then [] else
    [discovery .info ("Discovery complete: " ++ toString s.entities.length ++ " entit(y/ies) in "
      ++ toString s.visits.length ++ " file(s), " ++ toString s.errors.length ++ " error(s).")])
  ++ [timed "discovery"]

def loadingNotes (l : Loading) : List Note :=
  (l.unknownSuffix.map fun suffix => generator .info
    ("Unknown extension '" ++ suffix ++ "' — trying JSON then YAML.")).toList
  ++ (match l.outline with
    | some (.ok o) => if o.settings.isNone then
        [generator .info "No generation config found in manifest — using defaults."] else []
    | _ => [])
  ++ [timed "load_manifest"]
  ++ (match l.document, l.failure?, l.content with
    | .error e, some message, _ => if e.isInputError then
        [generator .error ("Failed to load manifest " ++ l.path.text ++ ": " ++ message)] else []
    | _, some message, _ => [generator .error ("Failed to load manifest " ++ l.path.text ++ ": " ++ message)]
    | _, none, some (.ok (m, _)) => [generator .info
        ("Loaded manifest " ++ l.path.text ++ ": " ++ toString m.entities.length ++ " entit(y/ies).")]
    | _, _, _ => [])

def intakeNotes : Intake → List Note
  | .given => []
  | .searched s => searchNotes s
  | .loaded l => loadingNotes l

/-! ## Stages -/

/-- The note that the rendering for settings is prepared. -/
def templatesNote (settings : Settings) : Note :=
  ⟨.debug, "queryfields.templates", "TemplateGenerator initialised (language=" ++ settings.language.name
    ++ ", namespace=" ++ settings.namespaceName ++ ")."⟩

def validationNotes (entities : List Entity) (settings : Settings)
    (ds : Validation.Diagnostics) (abort : Option Abort) : List Note :=
  [validators .info ("Starting validation — " ++ toString entities.length ++ " entit(y/ies), language="
      ++ settings.language.name ++ "."),
    templatesNote settings,
    if ds.hasErrors then validators .error
      ("Validation FAILED with " ++ toString ds.errors.length ++ " error(s). " ++ ds.summary)
    else validators .info ("Validation PASSED. " ++ ds.summary),
    timed "validation"]
  ++ ds.errors.map (fun d => generator .error ("  ✗ " ++ d.text))
  ++ ds.warnings.map (fun d => generator .warning ("  ⚠ " ++ d.text))
  ++ match abort with
    | some .errors => [generator .error
        ("Validation failed with " ++ toString ds.errors.length ++ " error(s); aborting.")]
    | some .warnings => [generator .error "Validation warnings treated as errors; aborting."]
    | none => if ds.invalidIndexes.isEmpty then [] else
        [generator .warning ("Non-strict mode: skipping " ++ toString ds.invalidIndexes.length
          ++ " invalid entit(y/ies).")]

def fateNotes : Entity × Fate → List Note
  | (e, .noFields) => [generator .info ("Skipping " ++ e.typeName ++ ": empty field list.")]
  | (e, .failed error) => [generator .error
      ("Generation failed for " ++ e.typeName ++ ": ValueError: " ++ error.message)]
  | (e, .rendered _ (some a)) => [⟨.debug, "queryfields.statements", "Built artifacts for " ++ e.typeName ++ " ("
      ++ toString e.fields.length ++ " fields, table=" ++ a.table ++ ")."⟩]
  | _ => []

def synthesisNotes (settings : Settings) (s : Synthesis) : List Note :=
  templatesNote settings :: s.fates.flatMap fateNotes
  ++ [timed "synthesis", generator .info ("Synthesis complete: " ++ s.detail ++ " in 0.000s.")]

/-! ## Export -/

def recordNote (f : Export.FileRecord) : Note :=
  exporters .debug ("Wrote file: " ++ f.path ++ " (" ++ toString f.sizeBytes ++ " bytes, "
    ++ toString f.lineCount ++ " lines).")

def writtenNotes (w : Export.Written) : List Note :=
  match w.outcome with
  | .ok f => [recordNote f]
  | .error e => if e.isSystem then
      (Export.Run.Written.error? w).toList.map (exporters .error) else []

def cleaningNotes (output : Path) (cleaning : Export.Cleaning) : List Note :=
  match cleaning with
  | .notAsked => []
  | .nothingThere => [asked]
  | .cleared => [asked, ⟨.debug, "queryfields.utils",
      "Cleaned directory: " ++ output.text ++ " (keep_git=True)"⟩]
  | .failed e => [asked, exporters .warning (Export.Run.cleaningWarning output e)]
where
  asked : Note := exporters .info ("Cleaning output directory: " ++ output.text)

def inventoryNotes (x : Export.Run) : List Note :=
  match x.inventoryFile with
  | none => []
  | some (.ok f) => [recordNote f, exporters .debug
      ("Wrote manifest to " ++ (x.output.join ⟨"", [Export.Inventory.fileName]⟩).text ++ ".")]
  | some (.error e) => [exporters .warning ("Failed to write manifest: " ++ e.message)]

def filesNotes (x : Export.Run) : List Note :=
  match x.noDirectory with
  | some e => [exporters .error (Export.Run.directoryError e)]
  | none =>
    x.files.flatMap writtenNotes
    ++ (if x.fault.isSome then [] else [exporters .info
      ("Wrote " ++ toString x.records.length ++ " generated files to " ++ x.output.text ++ ".")])
    ++ inventoryNotes x

def exportNotes (x : Export.Run) : List Note :=
  [exporters .debug ("FragmentExporter initialised: output_dir=" ++ x.output.text ++ ", atomic="
    ++ word x.options.atomic ++ ".")]
  ++ cleaningNotes x.output x.cleaning ++ filesNotes x ++ [timed "export"]
  ++ (if x.fault.isSome then []
    else if x.success then [exporters .info ("Export completed: " ++ toString x.inventory.totalFiles ++ " files, "
      ++ toString x.inventory.totalBytes ++ " bytes, 0.000s.")]
    else [exporters .error ("Export completed with " ++ toString x.errors.length ++ " error(s) in 0.000s.")])
  ++ [timed "export"]

/-! ## Runs -/

/-- The notes of a run. -/
def notes (r : Run) : List Note :=
  (r.conflict.map fun c => generator .error c.message).toList
  ++ (r.intake.map intakeNotes).getD []
  ++ (match r.work, r.validation with
    | some (entities, settings), some ds =>
      validationNotes entities settings ds r.abort
      ++ (r.synthesis.map (synthesisNotes settings)).getD []
    | _, _ => [])
  ++ (r.exported.map exportNotes).getD []

end CrudQueries.Generation.Journal
