/-
  CrudQueries.Proofs.Generation.Halt — a run that stops early leaves everything as it was.

  Clearing and writing belong to the export, which is a run's last stage, so a run that stops before it comes to its
  fragments has touched nothing. `Halts` lists what stops a run: clearing is refused, a manifest cannot be used, a
  source path leads nowhere, only validation was asked for, or validation stops it. Then the tree is the one the run
  began with and the report has no files, types, artifacts or inventory; and it is one of success only if validation
  was all that was asked for, and found nothing wrong (`halted`). Such a run has a report unless the manifest's document
  fails with an error of a kind that loading does not expect (`escaped?`), as a truth value that is none does
  (`unreported_wrongTruth`). The list is complete: a run that has a report and no fragments was stopped by something in
  it (`halts_of_no_fragments`).
-/

import CrudQueries.Proofs.Files.Directory
import CrudQueries.Proofs.Generation.OnDisk

namespace CrudQueries.Generation

open CrudQueries.Files (Path Tree)
open CrudQueries.Files.Tree (IsDirectory IsEntryName entry?_file readText_file resolve_directory)
open CrudQueries.Validation (full)

variable {t : Tree} {options : Options} {input : Input} {output place : Option Path} {entities : List Entity}
  {settings : Settings}

/-- What stops a run before it comes to its fragments. -/
inductive Halts (t : Tree) (options : Options) (input : Input) (output : Option Path) : Prop where
  /-- Clearing the output directory would remove an input. -/
  | cleaning (place : Option Path) (c : Conflict) (ho : output.mapM (fun p => t.resolve p) = .ok place)
      (hc : checkClean t options place input.paths = .ok (some c))
  /-- The manifest cannot be loaded, or what it holds is not of the right form. -/
  | manifest (place : Option Path) (path : Path) (overrides : Manifest.Mapping) (why : String)
      (ho : output.mapM (fun p => t.resolve p) = .ok place)
      (hc : checkClean t options place input.paths = .ok none) (hi : input = .manifest path overrides)
      (hf : (load t path overrides).failure? = some why)
  /-- A source path leads nowhere. -/
  | source (place : Option Path) (paths : List Path) (settings : Settings) (missing : String)
      (ho : output.mapM (fun p => t.resolve p) = .ok place)
      (hc : checkClean t options place input.paths = .ok none) (hi : input = .sources paths settings)
      (hs : (Discovery.search t settings paths).stop = some (.missing missing))
  /-- Only validation was asked for. -/
  | onlyValidates (place : Option Path) (entities : List Entity) (settings : Settings)
      (ho : output.mapM (fun p => t.resolve p) = .ok place)
      (hw : collected? t input = some (entities, settings)) (hv : options.validateOnly = true)
  /-- There are errors, and the run is strict or one of them is of the settings. -/
  | errors (place : Option Path) (entities : List Entity) (settings : Settings)
      (ho : output.mapM (fun p => t.resolve p) = .ok place)
      (hc : checkClean t options place input.paths = .ok none)
      (hw : collected? t input = some (entities, settings)) (he : (full entities settings).hasErrors = true)
      (hs : options.strict = true ∨ (full entities settings).hasGlobalErrors = true)
  /-- There are warnings, and they count as errors. -/
  | warnings (place : Option Path) (entities : List Entity) (settings : Settings)
      (ho : output.mapM (fun p => t.resolve p) = .ok place)
      (hc : checkClean t options place input.paths = .ok none)
      (hw : collected? t input = some (entities, settings)) (hww : (full entities settings).hasWarnings = true)
      (hf : options.failOnWarnings = true)

/-- The input was read without an error and validation has nothing against it. -/
def ValidInput (t : Tree) (options : Options) (input : Input) : Prop :=
  ∃ entities settings, collected? t input = some (entities, settings) ∧ readErrors t input = [] ∧
    (full entities settings).hasErrors = false ∧
      ¬ ((full entities settings).hasWarnings = true ∧ options.failOnWarnings = true)

/-! ## What a stopped run leaves -/

theorem checkClean_of_validateOnly (hv : options.validateOnly = true) (inputs : List Path) :
    checkClean t options place inputs = .ok none := by
  unfold checkClean
  cases place with
  | none => rfl
  | some p => simp [hv]

/-- A run that stops does so before, instead of or after collecting its entities. -/
theorem Halts.stage (h : Halts t options input output) :
    ∃ place, output.mapM (fun p => t.resolve p) = .ok place ∧
      ((∃ c, checkClean t options place input.paths = .ok (some c)) ∨
        checkClean t options place input.paths = .ok none ∧
          (collected? t input = none ∨
            ∃ entities settings, collected? t input = some (entities, settings) ∧
              endsWithValidation options (full entities settings) = true)) := by
  cases h with
  | cleaning place c ho hc => exact ⟨place, ho, .inl ⟨c, hc⟩⟩
  | manifest place path overrides why ho hc hi hf =>
    refine ⟨place, ho, .inr ⟨hc, .inl ?_⟩⟩
    rw [hi, collected?_manifest, hf]
    exact Option.some_ne_none why
  | source place paths settings missing ho hc hi hs =>
    refine ⟨place, ho, .inr ⟨hc, .inl ?_⟩⟩
    simp [hi, collected?, hs]
  | onlyValidates place entities settings ho hw hv =>
    refine ⟨place, ho, .inr ⟨checkClean_of_validateOnly hv _, .inr ⟨entities, settings, hw, ?_⟩⟩⟩
    simp [endsWithValidation, hv]
  | errors place entities settings ho hc hw he hs =>
    refine ⟨place, ho, .inr ⟨hc, .inr ⟨entities, settings, hw, ?_⟩⟩⟩
    have hstop : (options.strict || (full entities settings).hasGlobalErrors) = true := by
      simpa using hs
    simp [endsWithValidation, abort?, he, hstop]
  | warnings place entities settings ho hc hw hww hf =>
    refine ⟨place, ho, .inr ⟨hc, .inr ⟨entities, settings, hw, ?_⟩⟩⟩
    unfold endsWithValidation abort?
    rw [hww, hf]
    split <;> rfl

/-- It has touched nothing, and has neither fragments nor an export. -/
theorem Halts.still (h : Halts t options input output) :
    (run t options input output).1 = t ∧ (run t options input output).2.1.synthesis = none ∧
      (run t options input output).2.1.exported = none := by
  obtain ⟨place, ho, ⟨c, hc⟩ | ⟨hc, hw | ⟨entities, settings, hw, hends⟩⟩⟩ := h.stage
  · rw [run_of_conflict ho hc]
    exact ⟨rfl, rfl, rfl⟩
  · rw [run_of_uncollected ho hc hw]
    exact ⟨rfl, rfl, rfl⟩
  · rw [run_of_ends ho hc hw hends]
    exact ⟨rfl, rfl, rfl⟩

theorem abort?_eq_warnings {ds : Validation.Diagnostics} (he : ds.hasErrors = false) :
    abort? options ds = some .warnings ↔ ds.hasWarnings = true ∧ options.failOnWarnings = true := by
  unfold abort?
  rw [he, Bool.false_and, if_neg Bool.false_ne_true, ← Bool.and_eq_true]
  split <;> simp [*]

/-- It succeeded exactly if it was only to validate a valid input. -/
theorem Halts.success_iff (h : Halts t options input output) :
    (run t options input output).2.1.report.success = true ↔
      options.validateOnly = true ∧ ValidInput t options input := by
  obtain ⟨place, ho, ⟨c, hc⟩ | ⟨hc, hw | ⟨entities, settings, hw, hends⟩⟩⟩ := h.stage
  · rw [run_of_conflict ho hc, Generation.success_iff]
    constructor
    · rintro ⟨hinput, -⟩
      simp [Run.report, Run.inputErrors] at hinput
    · rintro ⟨hv, -⟩
      rw [checkClean_of_validateOnly hv] at hc
      cases hc
  · rw [run_of_uncollected ho hc hw, Generation.success_iff]
    constructor
    · rintro ⟨hinput, -⟩
      exact absurd hinput (inputErrors_of_uncollected hw rfl)
    · rintro ⟨-, entities, settings, hw', -⟩
      rw [hw] at hw'
      cases hw'
  · rw [run_of_ends ho hc hw hends, Generation.success_iff,
      inputErrors_of_collected hw rfl rfl]
    have herrors : (full entities settings).errors = [] ↔ (full entities settings).hasErrors = false := by
      simp [Validation.Diagnostics.errors, Validation.Diagnostics.hasErrors, List.filter_eq_nil_iff]
    constructor
    · rintro ⟨hread, hvalidation, -⟩
      simp only [Run.report, Run.validationErrors, List.append_eq_nil_iff, List.map_eq_nil_iff, herrors] at hvalidation
      obtain ⟨he, hwarnings⟩ := hvalidation
      -- An abort for warnings leaves an error.
      have habort : abort? options (full entities settings) ≠ some .warnings := by
        intro habort
        rw [habort] at hwarnings
        simp at hwarnings
      refine ⟨?_, entities, settings, hw, hread, he, fun hww => habort ((abort?_eq_warnings he).mpr hww)⟩
      have hnone : abort? options (full entities settings) = none := by
        cases ha : abort? options (full entities settings) with
        | none => rfl
        | some abort =>
          cases abort with
          | errors => simp [abort?, he] at ha
          | warnings => exact absurd ha habort
      simpa [endsWithValidation, hnone] using hends
    · rintro ⟨hv, entities', settings', hw', hread, he, hww⟩
      obtain ⟨rfl, rfl⟩ : entities' = entities ∧ settings' = settings := by
        simpa using hw'.symm.trans hw
      have habort : abort? options (full entities' settings') ≠ some .warnings :=
        fun habort => hww ((abort?_eq_warnings he).mp habort)
      refine ⟨hread, ?_, rfl, rfl⟩
      simp [Run.report, Run.validationErrors, herrors.mpr he, habort]

theorem Halts.untroubled (h : Halts t options input output) (ho : output.mapM (fun p => t.resolve p) = .ok place)
    (hc : checkClean t options place input.paths = .ok none) :
    ∀ paths settings e, input = .sources paths settings →
      (Discovery.search t settings paths).stop ≠ some (.trouble e) := by
  rintro paths settings e rfl
  cases h with
  | cleaning place' c ho' hc' =>
    obtain rfl : place' = place := Except.ok.inj (ho'.symm.trans ho)
    cases hc'.symm.trans hc
  | manifest _ _ _ _ _ _ hi => cases hi
  | source _ paths' settings' missing _ _ hi hs =>
    cases hi
    rw [hs]
    nofun
  | onlyValidates _ _ _ _ hw | errors _ _ _ _ _ hw | warnings _ _ _ _ _ hw =>
    rw [stop_of_collected hw]
    nofun

/-- It has a report, unless it was the manifest's document that stopped it, with an error of another kind. -/
theorem Halts.fault (h : Halts t options input output) :
    (run t options input output).2.2 =
      if (run t options input output).2.1.conflict.isSome then none
      else (escaped? t input).map fun e => ⟨e.kind, e.message⟩ := by
  obtain ⟨place, ho, ⟨c, hc⟩ | ⟨hc, hw | ⟨entities, settings, hw, hends⟩⟩⟩ := h.stage
  · rw [run_of_conflict ho hc]
    rfl
  · rw [run_of_uncollected ho hc hw]
    exact fault?_of_intake rfl rfl (h.untroubled ho hc)
  · rw [run_of_ends ho hc hw hends]
    exact fault?_of_intake rfl rfl (h.untroubled ho hc)

/-- A run that stops before its fragments leaves the tree as it was, and a report without files, types, artifacts or
  inventory, which is one of success exactly if the run was only to validate a valid input. The run ends without that
  report exactly if it came to a manifest whose document has an error of a kind that does not say that the input cannot
  be used. -/
theorem halted (h : Halts t options input output) :
    let done := run t options input output
    done.1 = t ∧ done.2.1.report.files = [] ∧ done.2.1.report.artifacts = [] ∧ done.2.1.report.generated = [] ∧
      done.2.1.report.skipped = [] ∧ done.2.1.report.inventory = none ∧
      (done.2.1.report.success = true ↔ options.validateOnly = true ∧ ValidInput t options input) ∧
      done.2.2 = if done.2.1.conflict.isSome then none else (escaped? t input).map fun e => ⟨e.kind, e.message⟩ := by
  obtain ⟨htree, hsynthesis, hexported⟩ := h.still
  refine ⟨htree, ?_, ?_, ?_, ?_, ?_, h.success_iff, h.fault⟩
  all_goals simp only [Run.report, hsynthesis, hexported, Option.map_none, Option.getD_none]

/-- A strict run on a type that is marked twice does not clear its output directory. -/
theorem halted_markedTwice :
    let twice : Entity := ⟨"Item", none, [], [], 2, none, none, none, none⟩
    let done := run manifestInOutput { clean := true } (.given [twice] {}) (some ⟨"/", ["out"]⟩)
    Halts manifestInOutput { clean := true } (.given [twice] {}) (some ⟨"/", ["out"]⟩) ∧
      done.1 = manifestInOutput ∧ done.2.1.report.success = false := by
  intro twice done
  have ho : (some ⟨"/", ["out"]⟩ : Option Path).mapM (fun p => manifestInOutput.resolve p) =
      .ok (some ⟨"/", ["out"]⟩) := by
    rw [Option.mapM_some, resolve_directory isDirectory_out]
    rfl
  have he : (full [twice] {}).hasErrors = true := by decide +kernel
  have hhalts : Halts manifestInOutput { clean := true } (.given [twice] {}) (some ⟨"/", ["out"]⟩) :=
    .errors _ [twice] {} ho rfl rfl he (.inl rfl)
  obtain ⟨htree, -, -, -, -, -, hsuccess, -⟩ := halted hhalts
  refine ⟨hhalts, htree, ?_⟩
  rw [Bool.eq_false_iff, ne_eq, hsuccess]
  rintro ⟨hv, -⟩
  cases hv

/-- A manifest with a truth value that is none. -/
def wrongTruth : Tree := ⟨[], [(["m.yaml"], .file (Text.Utf8.encode "entities: !!bool maybe"))]⟩

theorem loadDocument_wrongTruth :
    Manifest.loadDocument wrongTruth ⟨"/", ["m.yaml"]⟩ = .error (.yaml "/m.yaml" (.truth "maybe")) := by
  have hroot : IsDirectory wrongTruth [] := ⟨nofun, fun n => by rw [List.take_nil]; rfl⟩
  have hn : IsEntryName "m.yaml" := by decide
  have hg : wrongTruth.get? ([] ++ ["m.yaml"]) = some (.file (Text.Utf8.encode "entities: !!bool maybe")) := by
    simp [wrongTruth, Tree.get?, Data.Entries.get?]
  have he := entry?_file hroot hn hg
  have hr := readText_file hroot hn hg (by cbv) (by decide)
  simp only [List.nil_append] at he hr
  have hy : Manifest.ofYaml "/m.yaml" "entities: !!bool maybe" = .error (.yaml "/m.yaml" (.truth "maybe")) := by
    -- Values have no decidable equality, so what is computed is that none is read.
    have hread : (Data.Yaml.read "entities: !!bool maybe").map (fun _ => ()) = .error (.truth "maybe") := by
      decide +kernel
    unfold Manifest.ofYaml
    cases hv : Data.Yaml.read "entities: !!bool maybe" with
    | ok v =>
      rw [hv] at hread
      cases hread
    | error e =>
      rw [hv] at hread
      cases hread
      rfl
  have hs : Manifest.suffixOf ⟨"/", ["m.yaml"]⟩ = ".yaml" := by decide
  simp only [Manifest.loadDocument, Manifest.checkFile, he, Manifest.readDocument, hs, hr, bind, Except.bind]
  rw [if_pos (by decide)]
  exact hy

/-- The run on that manifest stops and has no report. -/
theorem unreported_wrongTruth :
    let input : Input := .manifest ⟨"/", ["m.yaml"]⟩ []
    Halts wrongTruth {} input none ∧ (run wrongTruth {} input none).2.2 = some ⟨"KeyError", "'maybe'"⟩ := by
  intro input
  have hmessage : Text.shown "maybe" = "'maybe'" := by decide +kernel
  have hfailure : (load wrongTruth ⟨"/", ["m.yaml"]⟩ []).failure? = some "'maybe'" := by
    simp only [load, Loading.failure?, loadDocument_wrongTruth]
    exact congrArg some hmessage
  have hw : collected? wrongTruth input = none := by
    rw [collected?_manifest, hfailure]
    exact Option.some_ne_none _
  have ho : (none : Option Path).mapM (fun p => wrongTruth.resolve p) = .ok none := rfl
  refine ⟨.manifest none _ _ _ ho rfl rfl hfailure, ?_⟩
  rw [run_of_uncollected ho rfl hw]
  simp only [Run.fault?, intakeOf, load, input, loadDocument_wrongTruth]
  rw [if_neg (by decide)]
  exact congrArg (fun m => some (⟨"KeyError", m⟩ : Fault)) hmessage

/-- Nothing else keeps a run that has a report from its fragments. -/
theorem halts_of_no_fragments (hfault : (run t options input output).2.2 = none)
    (hs : (run t options input output).2.1.synthesis = none) : Halts t options input output := by
  have hcourse := run_course t options input output
  generalize run t options input output = done at hcourse hfault hs
  cases hcourse with
  | lost e | unchecked place e => cases hfault
  | refused place c ho hc => exact .cleaning place c ho hc
  | uncollected place ho hc hw =>
    cases input with
    | given entities settings => cases hw
    | sources paths settings =>
      obtain ⟨stop, hstop⟩ := Option.ne_none_iff_exists'.mp (collected?_sources.mp hw)
      cases stop with
      | missing path => exact .source place paths settings path ho hc rfl hstop
      | trouble e => simp [Run.fault?, intakeOf, hstop] at hfault
    | manifest path overrides =>
      obtain ⟨why, hf⟩ := Option.ne_none_iff_exists'.mp (collected?_manifest.mp hw)
      exact .manifest place path overrides why ho hc rfl hf
  | collected place entities settings ho hc hw u r hp =>
    have hsynthesis := process_synthesis t (r := { options, output := place, intake := some (intakeOf t input) }) rfl
      entities settings
    have hends : endsWithValidation options (full entities settings) = true := by
      by_contra hgo
      rw [hp, hs, if_neg hgo] at hsynthesis
      cases hsynthesis
    rcases Bool.or_eq_true_iff.mp hends with ha | hv
    · unfold abort? at ha
      split at ha
      · rename_i he
        rw [Bool.and_eq_true, Bool.or_eq_true] at he
        exact .errors place entities settings ho hc hw he.1 he.2
      · split at ha
        · rename_i hww
          rw [Bool.and_eq_true] at hww
          exact .warnings place entities settings ho hc hw hww.1 hww.2
        · cases ha
    · exact .onlyValidates place entities settings ho hw hv

end CrudQueries.Generation
