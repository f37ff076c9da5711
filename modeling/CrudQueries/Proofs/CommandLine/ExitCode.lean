/-
  CrudQueries.Proofs.CommandLine.ExitCode — when the program's exit code is zero.

  A report's exit code is zero exactly if the run succeeded (`exitCode_eq_zero`). Everything that ends the
  program before there is a report gives a code of its own, so the code is zero exactly if the arguments
  came to a run and its report is of success (`exitCode_runArguments`). Help and version are no runs.
-/

import CrudQueries.CommandLine.Run

namespace CrudQueries.CommandLine

open CrudQueries.Files (Path Tree)
open CrudQueries.Generation (Report)

theorem exitCode_eq_zero (r : Report) : r.exitCode = 0 ↔ r.success = true := by
  rw [Report.exitCode]
  refine ⟨fun h => ?_, fun h => by rw [if_pos h]⟩
  split at h
  · assumption
  · -- every other code names a stage, and none of these is zero
    repeat' split at h
    all_goals cases h

variable (t : Tree) (a : Arguments)

/-- The arguments, with these settings and this output directory, come to a run that reports success. -/
def Succeeds (output : Option Path) (settings : Manifest.Mapping) : Prop :=
  ∃ input, inputOf t a settings = .ok input ∧ (Generation.run t (options a) input output).2.2 = none ∧
    (Generation.run t (options a) input output).2.1.report.success = true

theorem exitCode_runWith (output : Option Path) (settings : Manifest.Mapping) (log : List LogItem) :
    (runWith t a output settings log).exitCode = 0 ↔ Succeeds t a output settings := by
  rw [runWith]
  cases hi : inputOf t a settings with
  | error failure => cases failure <;> simp [Succeeds, hi, inputFailure, faultCode, Report.inputFailed]
  | ok input =>
    simp only [Succeeds, hi, Except.ok.injEq, exists_eq_left']
    obtain ⟨u, r, fault⟩ := Generation.run t (options a) input output
    cases fault with
    | some fault => simp [faultCode]
    | none => simp [exitCode_eq_zero]

/-- The arguments come to a run, or to an exit code of their own. -/
theorem runArguments_cases :
    (∃ output settings log, runArguments t a = runWith t a output settings log) ∨ (runArguments t a).exitCode ≠ 0 := by
  rw [runArguments]
  simp only
  split
  · exact .inr (by simp [Report.inputFailed])
  · split
    · exact .inr (by simp [faultCode])
    · split
      · exact .inr (by simp [faultCode])
      · split
        · exact .inr (by simp [faultCode])
        · exact .inr (by simp [inputFailure, Report.inputFailed])
        · exact .inl ⟨_, _, _, rfl⟩

/-- The exit code is zero exactly for runs that report success. -/
theorem exitCode_runArguments :
    (runArguments t a).exitCode = 0 ↔
      ∃ output settings log, runArguments t a = runWith t a output settings log ∧ Succeeds t a output settings := by
  constructor
  · intro hz
    rcases runArguments_cases t a with ⟨output, settings, log, hrun⟩ | hne
    · exact ⟨output, settings, log, hrun, (exitCode_runWith t a output settings log).mp (hrun ▸ hz)⟩
    · exact absurd hz hne
  · rintro ⟨output, settings, log, hrun, hs⟩
    rw [hrun]
    exact (exitCode_runWith t a output settings log).mpr hs

end CrudQueries.CommandLine
