/-
  CrudQueries.Proofs.Generation.Intake — what a report says of the input.

  An input comes to entities and settings (`collected?`), or it cannot be used: a search stops, or something is at
  fault with a manifest. What cannot be used is an input error (`inputErrors_of_uncollected`); what can be used has only
  the errors of single files (`inputErrors_of_collected`). A manifest whose document fails with an error of an unexpected
  kind takes the report away (`fault?_of_intake`).
-/

import CrudQueries.Proofs.Generation.Stages

namespace CrudQueries.Generation

open CrudQueries.Files (Path Tree)

variable {t : Tree} {input : Input} {entities : List Entity} {settings : Settings}

/-- The errors of single files while an input was read. -/
def readErrors (t : Tree) : Input → List String
  | .sources paths settings => (Discovery.search t settings paths).errors
  | _ => []

/-- The error that a manifest's document ends a run with, of a kind that does not say that the input cannot be used. -/
def escaped? (t : Tree) : Input → Option Manifest.DocumentError
  | .manifest path _ =>
    match Manifest.loadDocument t path with
    | .error e => if e.isInputError then none else some e
    | .ok _ => none
  | _ => none

/-! ## Inputs that can be used -/

/-- A manifest has a content exactly if nothing is at fault with it. -/
theorem failure?_eq_none_iff {path : Path} {overrides : Manifest.Mapping} :
    (load t path overrides).failure? = none ↔ ∃ m settings, (load t path overrides).content = some (.ok (m, settings)) := by
  unfold load Loading.failure?
  simp only
  cases Manifest.loadDocument t path with
  | error e => simp [Except.toOption]
  | ok document =>
    cases ho : Manifest.outline document with
    | error e => simp [ho, Except.toOption]
    | ok outline =>
      cases hc : outline.read (some path.text) overrides with
      | error e => simp [ho, hc, Except.toOption]
      | ok content =>
        simp only [ho, hc, Except.toOption, Option.map_some, Option.bind_some, true_iff]
        exact ⟨content.1, content.2, rfl⟩

theorem collected?_manifest {path : Path} {overrides : Manifest.Mapping} :
    collected? t (.manifest path overrides) = none ↔ (load t path overrides).failure? ≠ none := by
  rw [ne_eq, failure?_eq_none_iff]
  rcases hc : (load t path overrides).content with _ | _ | ⟨m, settings⟩ <;> simp [collected?, hc]

theorem collected?_sources {paths : List Path} :
    collected? t (.sources paths settings) = none ↔ (Discovery.search t settings paths).stop ≠ none := by
  cases hs : (Discovery.search t settings paths).stop <;> simp [collected?, hs]

theorem stop_of_collected {paths : List Path} {collected : List Entity × Settings}
    (hw : collected? t (.sources paths settings) = some collected) : (Discovery.search t settings paths).stop = none := by
  cases hstop : (Discovery.search t settings paths).stop with
  | none => rfl
  | some stop => simp [collected?, hstop] at hw

theorem failure?_of_collected {path : Path} {overrides : Manifest.Mapping} {collected : List Entity × Settings}
    (hw : collected? t (.manifest path overrides) = some collected) : (load t path overrides).failure? = none := by
  cases hf : (load t path overrides).failure? with
  | none => rfl
  | some why =>
    rw [collected?_manifest.mpr (by rw [hf]; exact Option.some_ne_none why)] at hw
    cases hw

/-! ## Errors of the input -/

/-- An input that cannot be used is an input error. -/
theorem inputErrors_of_uncollected (hw : collected? t input = none) {r : Run} (hi : r.intake = some (intakeOf t input)) :
    r.report.inputErrors ≠ [] := by
  cases input with
  | given entities settings => cases hw
  | sources paths settings =>
    obtain ⟨stop, hs⟩ := Option.ne_none_iff_exists'.mp (collected?_sources.mp hw)
    simp [Run.report, Run.inputErrors, hi, intakeOf, hs]
  | manifest path overrides =>
    obtain ⟨why, hf⟩ := Option.ne_none_iff_exists'.mp (collected?_manifest.mp hw)
    simp [Run.report, Run.inputErrors, hi, intakeOf, hf]

/-- One that can be used has no input errors but those of single files. -/
theorem inputErrors_of_collected (hw : collected? t input = some (entities, settings)) {r : Run}
    (hc : r.conflict = none) (hi : r.intake = some (intakeOf t input)) :
    r.report.inputErrors = readErrors t input := by
  cases input with
  | given entities settings => simp [Run.report, Run.inputErrors, hc, hi, intakeOf, readErrors]
  | sources paths settings =>
    simp [Run.report, Run.inputErrors, hc, hi, intakeOf, readErrors, stop_of_collected hw]
  | manifest path overrides =>
    simp [Run.report, Run.inputErrors, hc, hi, intakeOf, readErrors, failure?_of_collected hw]

/-- A run that exports nothing and meets no trouble with its sources ends without a report only by its manifest. -/
theorem fault?_of_intake {r : Run} (hi : r.intake = some (intakeOf t input)) (hx : r.exported = none)
    (hs : ∀ paths settings e, input = .sources paths settings →
      (Discovery.search t settings paths).stop ≠ some (.trouble e)) :
    r.fault? = (escaped? t input).map fun e => ⟨e.kind, e.message⟩ := by
  unfold Run.fault?
  rw [hi, hx]
  cases input with
  | given entities settings => rfl
  | sources paths settings =>
    cases hstop : (Discovery.search t settings paths).stop with
    | none => simp [intakeOf, escaped?, hstop]
    | some stop =>
      cases stop with
      | missing path => simp [intakeOf, escaped?, hstop]
      | trouble e => exact absurd hstop (hs paths settings e rfl)
  | manifest path overrides =>
    simp only [intakeOf, load, escaped?]
    cases Manifest.loadDocument t path with
    | ok document => rfl
    | error e => cases he : e.isInputError <;> simp [he]

end CrudQueries.Generation
