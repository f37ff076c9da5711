/-
  CrudQueries.CommandLine.Run — a run as the command line asks for it.

  Settings come from a file, over which those among the arguments win. The report goes to the
  output, or after the files themselves to the log; a run that only validates shows diagnostics
  and input errors instead. The exit code is that of the report; arguments that cannot be used are
  an input error, and a fault that leaves no report gives one.
-/

import CrudQueries.CommandLine.Arguments
import CrudQueries.CommandLine.Help
import CrudQueries.Generation.Journal

namespace CrudQueries.CommandLine

open CrudQueries.Data (Value)
open CrudQueries.Files (Path Tree)
open CrudQueries.Generation (Report)
open CrudQueries.Log (Level Note)

/-- The exit code of a fault that leaves no report. -/
def faultCode : Nat := 1

/-- A line among the log: a note, or plain text. -/
inductive LogItem where
  | note (n : Note)
  | text (s : String)
  deriving DecidableEq, Repr

/-- What a run of the program leaves. -/
structure Outcome where
  tree : Tree
  exitCode : Nat
  output : String := ""
  log : List LogItem := []

/-- The time of all notes, counted from the beginning of the run: none that shows has gone by. -/
def startTime : String := "00:00:00"

/-- The text of the log, its notes made at `time`. -/
def logText (time : String) (log : List LogItem) : String :=
  String.join (log.map fun
    | .note n => n.line time ++ "\n"
    | .text s => s)

/-- The lowest level that the log shows. -/
def leastLevel (a : Arguments) : Level :=
  if a.quiet then .error
  else match a.verbosity with
    | 0 => .warning
    | 1 => .info
    | _ => .debug

def note (level : Level) (text : String) : LogItem := .note ⟨level, "queryfields", text⟩

/-- Keeps the notes that are shown, and all plain text. -/
def shownItems (a : Arguments) (log : List LogItem) : List LogItem :=
  log.filter fun
    | .note n => n.isShown (leastLevel a)
    | .text _ => true

/-! ## Settings -/

/-- The settings among the arguments. -/
def argumentSettings (a : Arguments) : Manifest.Mapping :=
  let entry (key : String) (v : Value) : Value × Value := (.text key, v)
  (a.language.map fun l => entry "language" (.text l.name)).toList
  ++ (a.namespaceName.map fun s => entry "namespace" (.text s)).toList
  ++ (a.moduleSuffix.map fun s => entry "module_suffix" (.text s)).toList
  ++ (if a.coerceMalformed then [entry "coerce_malformed_fields" (.bool true)] else [])

/-- Why there are no settings: an input that cannot be used, or a fault. -/
inductive SettingsFailure where
  | input (message : String)
  | fault

/-- The settings of the file, if one is named, with those among the arguments put over them. -/
def settingsMapping (t : Tree) (a : Arguments) : Except SettingsFailure Manifest.Mapping :=
  match a.config with
  | none => .ok (Settings.merge [argumentSettings a])
  | some config =>
    match t.resolve (Path.ofText config) with
    | .error e => .error (if e.kind == "ValueError" then .input e.message else .fault)
    | .ok path =>
      match Manifest.loadSettings t path with
      | .error e => .error (if e.isInputError then .input e.message else .fault)
      | .ok entries => .ok (Settings.merge [entries, argumentSettings a])

def options (a : Arguments) : Generation.Options where
  strict := !a.noStrict
  failOnWarnings := a.failOnWarnings
  clean := a.clean
  writeInventory := !a.noManifest
  validateOnly := a.validateOnly

/-! ## Running -/

/-- What the program shows of a report: its output, and what comes among the log. -/
def present (a : Arguments) (r : Report) : String × List LogItem :=
  if a.validateOnly then
    ((r.validation.map fun ds => ds.report true ++ "\n").getD ""
      ++ String.join (r.inputErrors.map fun e => "  ✗ " ++ e ++ "\n"), [])
  else if a.toStdout then
    (String.join ((Export.byPath r.files).map fun (path, content) =>
      "# ==> " ++ path ++ " <==\n" ++ content ++ "\n"), [.text (r.summary ++ "\n")])
  else (r.summary ++ "\n", [])

/-- The note at the end of a run. -/
def closing (code : Nat) : LogItem :=
  if code == 0 then note .info "Generation completed successfully."
  else note .error ("Generation failed with exit code " ++ toString code ++ ".")

/-- A run that ends before there is a report. -/
def inputFailure (t : Tree) (log : List LogItem) : Outcome :=
  { tree := t, exitCode := Report.inputFailed, log := log ++ [closing Report.inputFailed] }

/-- The input that the arguments name; a message if the settings are refused. -/
def inputOf (t : Tree) (a : Arguments) (settings : Manifest.Mapping) :
    Except SettingsFailure Generation.Input :=
  match a.manifest with
  | some manifest =>
    match t.resolve (Path.ofText manifest) with
    | .error _ => .error .fault
    | .ok path => .ok (.manifest path settings)
  | none =>
    match Settings.ofLayers [settings] with
    | .error r => .error (.input (Settings.refusal r))
    | .ok settings => .ok (.sources ((a.sources.getD []).map Path.ofText) settings)

/-- Runs with settings, after the notes in `log`. -/
def runWith (t : Tree) (a : Arguments) (output : Option Path) (settings : Manifest.Mapping)
    (log : List LogItem) : Outcome :=
  let log := log ++ [.note (Generation.Journal.optionsNote (options a))]
  match inputOf t a settings with
  | .error .fault => { tree := t, exitCode := faultCode, log }
  | .error (.input message) => inputFailure t (log ++ [note .error message])
  | .ok input =>
    let (t, run, fault) := Generation.run t (options a) input output
    let log := log ++ (Generation.Journal.notes run).map .note
    match fault with
    | some _ => { tree := t, exitCode := faultCode, log }
    | none =>
      let report := run.report
      let (text, extra) := present a report
      { tree := t, exitCode := report.exitCode, output := text
        log := log ++ extra ++ [closing report.exitCode] }

/-- The note of the paths that a run reads. No path at all can be shown for an empty manifest path. -/
def inputNote? (a : Arguments) : Option LogItem :=
  let shown (s : String) : LogItem := note .info ("Input:   " ++ s)
  match a.manifest, a.sources with
  | some m, sources => if m.isEmpty then sources.map fun s => shown (", ".intercalate s) else some (shown m)
  | none, some s => some (shown (", ".intercalate s))
  | none, none => none

/-- Runs as the arguments ask, up to the choice of what the log shows. -/
def runArguments (t : Tree) (a : Arguments) : Outcome :=
  let writes := !(a.validateOnly || a.toStdout)
  if writes && a.output.isNone then
    { tree := t, exitCode := Report.inputFailed
      log := [note .error ("Output directory is required for generation. "
        ++ "Use -o/--output, --stdout or --validate-only.")] }
  else
    match if writes then a.output.mapM fun s => t.resolve (Path.ofText s) else .ok none with
    | .error _ => { tree := t, exitCode := faultCode }
    | .ok output =>
      match inputNote? a with
      | none => { tree := t, exitCode := faultCode }
      | some first =>
        let log := [first,
          note .info ("Output:  " ++ (output.map (·.text)).getD "(none)"),
          note .info ("Strict:  " ++ Generation.Journal.word (!a.noStrict))]
        match settingsMapping t a with
        | .error .fault => { tree := t, exitCode := faultCode, log }
        | .error (.input message) =>
          inputFailure t (log ++ [note .error ("Failed to load config: " ++ message)])
        | .ok settings => runWith t a output settings log

/-- Runs the program. -/
def run (t : Tree) (args : List String) : Outcome :=
  match Arguments.read args with
  | .error .help => { tree := t, exitCode := 0, output := helpText }
  | .error .version => { tree := t, exitCode := 0, output := programName ++ " " ++ Fragment.version ++ "\n" }
  | .error (.refused message) =>
    { tree := t, exitCode := Report.inputFailed
      log := [.text (programName ++ ": error: " ++ message ++ "\n")] }
  | .ok a =>
    let o := runArguments t a
    { o with log := shownItems a o.log }

end CrudQueries.CommandLine
