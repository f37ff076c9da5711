/-
  CrudQueries.Proofs.Generation.Prediction — validation predicts what rendering will come to.

  All that rendering a type or building its artifacts could refuse, validation has looked at, so what it does not
  pass over is rendered (`rendered_of_not_condemned`) and no run has an error of this stage (`generationErrors_eq_nil`).
  Where nothing is written such a run has the errors of its input and its validation only, and these are the same
  whether it goes on to its fragments or not. So it comes to the same exit code (`exitCode_of_mode`).
-/

import CrudQueries.Proofs.Generation.Accounting

namespace CrudQueries.Generation

open CrudQueries.Files (Path Tree)
open CrudQueries.Fragment (fileOf knownTable?)
open CrudQueries.Validation (accepted_of_not_condemned full)

variable {settings : Settings} {entities : List Entity}

/-- A type with fields that validation does not pass over has a fragment, and artifacts if its table is known. -/
theorem rendered_of_not_condemned {i : Nat} {e : Entity} (he : entities[i]? = some e)
    (hc : (full entities settings).condemn i = false) (hf : e.fields ≠ []) :
    (∃ files, fileOf settings e = .ok files) ∧
      ∀ table, knownTable? e = some table → ∃ a, Query.Artifacts.build e.typeName e.fields table = .ok a := by
  refine ⟨⟨_, fileOf_accepted (accepted_of_not_condemned hc he).1⟩, fun table _ => ?_⟩
  unfold Query.Artifacts.build
  rw [if_neg (by simpa using hf)]
  exact ⟨_, rfl⟩

/-- No run has an error of rendering. -/
theorem generationErrors_eq_nil (t : Tree) (options : Options) (input : Input) (output : Option Path) :
    (run t options input output).2.1.report.generationErrors = [] := by
  have hfollows := (run_follows t options input output).1
  cases hs : (run t options input output).2.1.synthesis with
  | none => simp only [Run.report, hs, Option.map_none, Option.getD_none]
  | some s =>
    obtain ⟨entities, settings, -, -, -, rfl⟩ := hfollows.synthesis s hs
    simp only [Run.report, hs, Option.map_some, Option.getD_some]
    exact errors_synthesise

/-! ## Exit codes -/

/-- The exit code of a run is that of the errors of its stages. -/
theorem exitCode_congr {r r' : Run} (hinput : r'.report.inputErrors = r.report.inputErrors)
    (hvalidation : r'.report.validationErrors = r.report.validationErrors)
    (hgeneration : r'.report.generationErrors = r.report.generationErrors)
    (hexport : r'.report.exportErrors = r.report.exportErrors) :
    r'.report.exitCode = r.report.exitCode := by
  have hsuccess : r'.report.success = r.report.success := by
    rw [Bool.eq_iff_iff, success_iff, success_iff, hinput, hvalidation, hgeneration, hexport]
  unfold Report.exitCode
  rw [hsuccess, hinput, hvalidation, hgeneration, hexport]

/-- What a run that writes nothing has for errors, the mode apart: those of its intake and of its validation. -/
theorem process_of_mode (t : Tree) (r r' : Run) (hr : r.output = none ∧ r.exported = none)
    (hr' : r'.output = none ∧ r'.exported = none) (hconflict : r'.conflict = r.conflict)
    (hintake : r'.intake = r.intake) (hmode : r'.options = { r.options with validateOnly := r'.options.validateOnly })
    (entities : List Entity) (settings : Settings) :
    (process t r' entities settings).2.fault? = (process t r entities settings).2.fault? ∧
      (process t r' entities settings).2.report.inputErrors = (process t r entities settings).2.report.inputErrors ∧
      (process t r' entities settings).2.report.validationErrors =
        (process t r entities settings).2.report.validationErrors ∧
      (process t r' entities settings).2.report.exportErrors =
        (process t r entities settings).2.report.exportErrors := by
  obtain ⟨-, hconflict₁, hintake₁, -⟩ := process_frame t r entities settings
  obtain ⟨-, hconflict₂, hintake₂, -⟩ := process_frame t r' entities settings
  obtain ⟨hvalidation₁, habort₁⟩ := process_validated t r entities settings
  obtain ⟨hvalidation₂, habort₂⟩ := process_validated t r' entities settings
  obtain ⟨-, hexported₁⟩ := process_without_output t hr.1 hr.2 entities settings
  obtain ⟨-, hexported₂⟩ := process_without_output t hr'.1 hr'.2 entities settings
  have habort : abort? r'.options (full entities settings) = abort? r.options (full entities settings) := by
    rw [hmode]
    rfl
  generalize process t r entities settings = one at *
  generalize process t r' entities settings = other at *
  refine ⟨?_, ?_, ?_, ?_⟩
  · simp only [Run.fault?, hintake₁, hintake₂, hexported₁, hexported₂, hintake]
  · simp only [Run.report, Run.inputErrors, hintake₁, hintake₂, hconflict₁, hconflict₂, hintake, hconflict]
  · simp only [Run.report, Run.validationErrors, hvalidation₁, hvalidation₂, habort₁, habort₂, habort]
  · simp only [Run.report, hexported₁, hexported₂]

/-- Whether a run that writes nothing is only to validate or not, it comes to the same end and the same exit code. -/
theorem exitCode_of_mode (t : Tree) (options : Options) (validateOnly : Bool) (input : Input) :
    let one := run t options input none
    let other := run t { options with validateOnly } input none
    other.2.2 = one.2.2 ∧ other.2.1.report.exitCode = one.2.1.report.exitCode := by
  have ho : (none : Option Path).mapM (fun p => t.resolve p) = .ok none := rfl
  have hgeneration (o : Options) := generationErrors_eq_nil t o input none
  intro one other
  have hsame : other.2.2 = one.2.2 ∧ other.2.1.report.inputErrors = one.2.1.report.inputErrors ∧
      other.2.1.report.validationErrors = one.2.1.report.validationErrors ∧
      other.2.1.report.exportErrors = one.2.1.report.exportErrors := by
    cases hw : collected? t input with
    | none =>
      simp only [one, other]
      rw [run_of_uncollected ho rfl hw, run_of_uncollected ho rfl hw]
      exact ⟨rfl, rfl, rfl, rfl⟩
    | some collected =>
      obtain ⟨entities, settings⟩ := collected
      simp only [one, other]
      rw [run_of_collected ho rfl hw, run_of_collected ho rfl hw]
      simp only
      exact process_of_mode t { options, output := none, intake := some (intakeOf t input) }
        { options := { options with validateOnly }, output := none, intake := some (intakeOf t input) }
        ⟨rfl, rfl⟩ ⟨rfl, rfl⟩ rfl rfl rfl entities settings
  obtain ⟨hfault, hinput, hvalidation, hexport⟩ := hsame
  exact ⟨hfault, exitCode_congr hinput hvalidation ((hgeneration _).trans (hgeneration _).symm) hexport⟩

end CrudQueries.Generation
