/-
  CrudQueries.Proofs.Generation.Stages — each stage of a run works on what the one before it came to.

  What a run keeps is not any combination of values (`Run.Follows`): the diagnostics are those of the
  entities and settings it works on, fragments are rendered only if validation did not stop the run,
  and for these entities, and the export is that of these fragments' files. Every run is so
  (`run_follows`), so what its report says can be read off its entities and settings alone. `Course` lists the ways a
  run goes, from a path that cannot be resolved to entities that are worked on, and every run goes one of them
  (`run_course`).
-/

import CrudQueries.Generation.Run

namespace CrudQueries.Generation

open CrudQueries.Files (Path Tree Trouble)
open CrudQueries.Validation (full)

/-- Each stage of the run works on what the one before it came to. -/
structure Run.Follows (t : Tree) (r : Run) : Prop where
  validation : r.validation = r.work.map fun (entities, settings) => full entities settings
  synthesis : ∀ s, r.synthesis = some s → ∃ entities settings,
    r.work = some (entities, settings) ∧ r.abort = none ∧ abort? r.options (full entities settings) = none ∧
      s = synthesise settings (full entities settings) entities
  exported : ∀ x, r.exported = some x → ∃ entities settings s output,
    r.work = some (entities, settings) ∧ r.synthesis = some s ∧ r.output = some output ∧
      x = (Export.run t settings (exportOptions r.options) output s.files).2

/-- A run that has not gone beyond its intake. -/
def Run.IsEarly (r : Run) : Prop :=
  r.work = none ∧ r.validation = none ∧ r.synthesis = none ∧ r.exported = none

theorem Run.IsEarly.follows {t : Tree} {r : Run} (h : r.IsEarly) : r.Follows t := by
  obtain ⟨hw, hv, hs, hx⟩ := h
  exact ⟨by rw [hw, hv]; rfl, by simp [hs], by simp [hx]⟩

theorem process_follows {t : Tree} {r : Run} (hr : r.IsEarly) (entities : List Entity) (settings : Settings) :
    (process t r entities settings).2.Follows t := by
  obtain ⟨-, -, hs, hx⟩ := hr
  rw [process]
  simp only
  split
  · exact ⟨rfl, by simp [hs], by simp [hx]⟩
  · rename_i hgo
    have ha : abort? r.options (full entities settings) = none := by
      simpa using (Bool.or_eq_false_iff.mp (Bool.eq_false_iff.mpr hgo)).1
    cases ho : r.output with
    | none =>
      simp only [ha]
      refine ⟨rfl, fun s h => ?_, by simp [hx]⟩
      exact ⟨entities, settings, rfl, rfl, ha, (Option.some.inj h).symm⟩
    | some output =>
      obtain ⟨u, x, hrun⟩ : ∃ u x, Export.run t settings (exportOptions r.options) output
          (synthesise settings (full entities settings) entities).files = (u, x) := ⟨_, _, rfl⟩
      simp only [hrun, ha]
      refine ⟨rfl, fun s h => ?_, fun y h => ?_⟩
      · exact ⟨entities, settings, rfl, rfl, ha, (Option.some.inj h).symm⟩
      · obtain rfl := Option.some.inj h
        exact ⟨entities, settings, _, output, rfl, rfl, rfl, by rw [hrun]⟩

theorem process_options (t : Tree) (r : Run) (entities : List Entity) (settings : Settings) :
    (process t r entities settings).2.options = r.options := by
  rw [process]
  simp only
  split
  · rfl
  · cases r.output <;> rfl

/-- What a run has before its entities are worked on stays as it is. -/
theorem process_frame (t : Tree) (r : Run) (entities : List Entity) (settings : Settings) :
    (process t r entities settings).2.output = r.output ∧ (process t r entities settings).2.conflict = r.conflict ∧
      (process t r entities settings).2.intake = r.intake ∧
      (process t r entities settings).2.work = some (entities, settings) := by
  unfold process
  simp only
  split
  · exact ⟨rfl, rfl, rfl, rfl⟩
  · cases r.output <;> exact ⟨rfl, rfl, rfl, rfl⟩

theorem process_validated (t : Tree) (r : Run) (entities : List Entity) (settings : Settings) :
    (process t r entities settings).2.validation = some (full entities settings) ∧
      (process t r entities settings).2.abort = abort? r.options (full entities settings) := by
  unfold process
  generalize full entities settings = ds
  simp only
  generalize abort? r.options ds = abort
  split
  · exact ⟨rfl, rfl⟩
  · cases r.output with
    | none => exact ⟨rfl, rfl⟩
    | some out => exact ⟨rfl, rfl⟩

/-- Does a run with these diagnostics end with its validation? -/
def endsWithValidation (options : Options) (ds : Validation.Diagnostics) : Bool :=
  (abort? options ds).isSome || options.validateOnly

theorem process_synthesis (t : Tree) {r : Run} (hr : r.synthesis = none) (entities : List Entity)
    (settings : Settings) :
    (process t r entities settings).2.synthesis =
      if endsWithValidation r.options (full entities settings) then none
      else some (synthesise settings (full entities settings) entities) := by
  unfold process endsWithValidation
  simp only
  split
  · exact hr
  · cases r.output <;> rfl

theorem process_of_ends (t : Tree) (r : Run) {entities : List Entity} {settings : Settings}
    (h : endsWithValidation r.options (full entities settings) = true) :
    process t r entities settings =
      (t, { r with
        work := some (entities, settings), validation := some (full entities settings),
        abort := abort? r.options (full entities settings) }) := by
  unfold endsWithValidation at h
  unfold process
  simp only [h, if_true]

/-- Without an output directory nothing is exported. -/
theorem process_without_output (t : Tree) {r : Run} (ho : r.output = none) (hr : r.exported = none)
    (entities : List Entity) (settings : Settings) :
    (process t r entities settings).1 = t ∧ (process t r entities settings).2.exported = none := by
  unfold process
  simp only [ho]
  split
  · exact ⟨rfl, hr⟩
  · exact ⟨rfl, hr⟩

/-! ## What an input comes to -/

/-- The entities and settings that an input comes to, if it can be used. -/
def collected? (t : Tree) : Input → Option (List Entity × Settings)
  | .given entities settings => some (entities, settings)
  | .sources paths settings =>
    let s := Discovery.search t settings paths
    if s.stop.isSome then none else some (s.entities, settings)
  | .manifest path overrides =>
    match (load t path overrides).content with
    | some (.ok (m, settings)) => some (m.entities, settings)
    | _ => none

/-- What the entities of an input are collected from. -/
def intakeOf (t : Tree) : Input → Intake
  | .given _ _ => .given
  | .sources paths settings => .searched (Discovery.search t settings paths)
  | .manifest path overrides => .loaded (load t path overrides)

variable (t : Tree) (options : Options) (input : Input) (output : Option Path)

theorem collect_eq (r : Run) :
    collect t r input =
      match collected? t input with
      | some (entities, settings) => process t { r with intake := some (intakeOf t input) } entities settings
      | none => (t, { r with intake := some (intakeOf t input) }) := by
  cases input with
  | given entities settings => rfl
  | sources paths settings =>
    unfold collect collected? intakeOf
    simp only
    cases (Discovery.search t settings paths).stop <;> rfl
  | manifest path overrides =>
    unfold collect collected? intakeOf
    simp only
    rcases (load t path overrides).content with _ | _ | ⟨m, settings⟩ <;> rfl

theorem collect_of_uncollected (r : Run) (hw : collected? t input = none) :
    collect t r input = (t, { r with intake := some (intakeOf t input) }) := by
  rw [collect_eq, hw]

theorem collect_of_collected (r : Run) {entities : List Entity} {settings : Settings}
    (hw : collected? t input = some (entities, settings)) :
    collect t r input = process t { r with intake := some (intakeOf t input) } entities settings := by
  rw [collect_eq, hw]

/-! ## The ways a run goes -/

/-- The ways a run goes. -/
inductive Course (t : Tree) (options : Options) (input : Input) (output : Option Path) : Tree × Run × Option Fault → Prop
  /-- The path of the output directory cannot be resolved. -/
  | lost (e : Trouble) (ho : output.mapM (fun p => t.resolve p) = .error e) :
      Course t options input output (t, { options }, some (.ofTrouble e))
  /-- The path of an input cannot be resolved. -/
  | unchecked (place : Option Path) (e : Trouble) (ho : output.mapM (fun p => t.resolve p) = .ok place)
      (hc : checkClean t options place input.paths = .error e) :
      Course t options input output (t, { options, output := place }, some (.ofTrouble e))
  /-- Clearing the output directory would remove an input. -/
  | refused (place : Option Path) (c : Conflict) (ho : output.mapM (fun p => t.resolve p) = .ok place)
      (hc : checkClean t options place input.paths = .ok (some c)) :
      Course t options input output (t, { options, output := place, conflict := some c }, none)
  /-- The input cannot be used. -/
  | uncollected (place : Option Path) (ho : output.mapM (fun p => t.resolve p) = .ok place)
      (hc : checkClean t options place input.paths = .ok none) (hw : collected? t input = none) :
      Course t options input output
        (let r : Run := { options, output := place, intake := some (intakeOf t input) }
        (t, r, r.fault?))
  /-- The input comes to entities and settings. -/
  | collected (place : Option Path) (entities : List Entity) (settings : Settings)
      (ho : output.mapM (fun p => t.resolve p) = .ok place)
      (hc : checkClean t options place input.paths = .ok none) (hw : collected? t input = some (entities, settings))
      (u : Tree) (r : Run)
      (hp : process t { options, output := place, intake := some (intakeOf t input) } entities settings = (u, r)) :
      Course t options input output (u, r, r.fault?)

theorem run_course : Course t options input output (run t options input output) := by
  unfold run
  cases ho : output.mapM fun p => t.resolve p with
  | error e => exact .lost e ho
  | ok place =>
    simp only
    cases hc : checkClean t options place input.paths with
    | error e => exact .unchecked place e ho hc
    | ok conflict =>
      cases conflict with
      | some c => exact .refused place c ho hc
      | none =>
        cases hw : collected? t input with
        | none =>
          simp only [collect_of_uncollected t input _ hw]
          exact .uncollected place ho hc hw
        | some found =>
          obtain ⟨entities, settings⟩ := found
          obtain ⟨⟨u, r⟩, hp⟩ : ∃ done,
              process t { options, output := place, intake := some (intakeOf t input) } entities settings = done :=
            ⟨_, rfl⟩
          simp only [collect_of_collected t input _ hw, hp]
          exact .collected place entities settings ho hc hw u r hp

/-- Every run goes from stage to stage, with the options it was given. -/
theorem run_follows :
    (run t options input output).2.1.Follows t ∧ (run t options input output).2.1.options = options := by
  have hcourse := run_course t options input output
  generalize run t options input output = done at hcourse ⊢
  cases hcourse with
  | lost | unchecked | refused | uncollected => exact ⟨Run.IsEarly.follows ⟨rfl, rfl, rfl, rfl⟩, rfl⟩
  | collected place entities settings ho hc hw u r hp =>
    have hfollows := process_follows (t := t) (r := { options, output := place, intake := some (intakeOf t input) })
      ⟨rfl, rfl, rfl, rfl⟩ entities settings
    have hoptions := process_options t { options, output := place, intake := some (intakeOf t input) } entities settings
    rw [hp] at hfollows hoptions
    exact ⟨hfollows, hoptions⟩

/-- A run keeps what it collected its entities from, if it came to that. -/
theorem run_intake :
    (run t options input output).2.1.intake = none ∨ (run t options input output).2.1.intake = some (intakeOf t input) := by
  have hcourse := run_course t options input output
  generalize run t options input output = done at hcourse ⊢
  cases hcourse with
  | lost | unchecked | refused => exact .inl rfl
  | uncollected => exact .inr rfl
  | collected place entities settings ho hc hw u r hp =>
    have hframe := process_frame t { options, output := place, intake := some (intakeOf t input) } entities settings
    rw [hp] at hframe
    exact .inr hframe.2.2.1

section ways

variable {t options input output} {place : Option Path} (ho : output.mapM (fun p => t.resolve p) = .ok place)
include ho

/-- Clearing the output directory would remove an input. -/
theorem run_of_conflict {c : Conflict} (hc : checkClean t options place input.paths = .ok (some c)) :
    run t options input output = (t, { options, output := place, conflict := some c }, none) := by
  unfold run
  simp only [ho, hc]

/-- The input cannot be used. -/
theorem run_of_uncollected (hc : checkClean t options place input.paths = .ok none) (hw : collected? t input = none) :
    run t options input output =
      let r : Run := { options, output := place, intake := some (intakeOf t input) }
      (t, r, r.fault?) := by
  unfold run
  simp only [ho, hc, collect_of_uncollected t input _ hw]

/-- The input comes to entities and settings. -/
theorem run_of_collected (hc : checkClean t options place input.paths = .ok none) {entities : List Entity}
    {settings : Settings} (hw : collected? t input = some (entities, settings)) :
    run t options input output =
      let done := process t { options, output := place, intake := some (intakeOf t input) } entities settings
      (done.1, done.2, done.2.fault?) := by
  unfold run
  simp only [ho, hc, collect_of_collected t input _ hw]

/-- The run ends with the validation of what it collected. -/
theorem run_of_ends (hc : checkClean t options place input.paths = .ok none) {entities : List Entity}
    {settings : Settings} (hw : collected? t input = some (entities, settings))
    (hends : endsWithValidation options (full entities settings) = true) :
    run t options input output =
      let r : Run :=
        { options, output := place, intake := some (intakeOf t input), work := some (entities, settings),
          validation := some (full entities settings), abort := abort? options (full entities settings) }
      (t, r, r.fault?) := by
  rw [run_of_collected ho hc hw]
  simp only
  rw [process_of_ends t { options, output := place, intake := some (intakeOf t input) } hends]

theorem run_on_given (entities : List Entity) (settings : Settings) :
    run t options (.given entities settings) output =
      let done := process t { options, output := place, intake := some .given } entities settings
      (done.1, done.2, done.2.fault?) := by
  refine run_of_collected ho ?_ rfl
  unfold checkClean
  cases place with
  | none => rfl
  | some p => exact ite_self _

end ways

end CrudQueries.Generation
