/-
  CrudQueries.Proofs.Generation.Accounting — what a report says of the types of a run, and when a run succeeds.

  Every type is in one of the report's three lists, each in the order of the types (`Entry`, `EntryOf`):
  passed over if its position is invalid, passed over if it has no fields, else generated. That a fragment
  cannot be rendered is provided for, but no type comes to it, since validation has looked at all that
  rendering needs (`errors_synthesise`). A run that succeeds had no error about any type, so it passes over
  none but those without fields (`accounts_of_valid`). The exit code of the program is zero for these runs
  alone (`exitCode_runArguments`).
-/

import CrudQueries.Proofs.CommandLine.ExitCode
import CrudQueries.Proofs.Generation.Stages
import CrudQueries.Proofs.Generation.Synthesis
import CrudQueries.Proofs.Validation.Flaw

namespace CrudQueries.Generation

open CrudQueries.Files (Path Tree)
open CrudQueries.Fragment (fileOf)
open CrudQueries.Validation (accepted_of_full accepted_of_not_condemned condemn_iff_mem full not_condemned)

variable {settings : Settings} {entities : List Entity}

/-! ## Entries -/

/-- How a report accounts for a type. -/
inductive Entry where
  | skipped (text : String)
  | generated (name : String)
  | failed (text : String)

namespace Entry

def skipped? : Entry → Option String
  | skipped text => some text
  | _ => none

def generated? : Entry → Option String
  | generated name => some name
  | _ => none

def failed? : Entry → Option String
  | failed text => some text
  | _ => none

end Entry

/-- The entry of the type at position `i`, given the diagnostics `ds`. -/
inductive EntryOf (settings : Settings) (ds : Validation.Diagnostics) (i : Nat) (e : Entity) : Entry → Prop where
  | invalid (h : .int i ∈ ds.invalidIndexes) : EntryOf settings ds i e (.skipped (e.typeName ++ " (invalid)"))
  | noFields (h : .int i ∉ ds.invalidIndexes) (hf : e.fields = []) :
    EntryOf settings ds i e (.skipped (e.typeName ++ " (no fields)"))
  | generated (files : List (String × String)) (h : .int i ∉ ds.invalidIndexes) (hf : e.fields ≠ [])
      (hr : fileOf settings e = .ok files) : EntryOf settings ds i e (.generated e.typeName)
  | failed (error : Fragment.RenderError) (h : .int i ∉ ds.invalidIndexes) (hf : e.fields ≠ [])
      (hr : fileOf settings e = .error error) :
    EntryOf settings ds i e (.failed (e.typeName ++ ": ValueError: " ++ error.message))

/-- The entry of a type by what became of it. -/
def Fate.entry (e : Entity) : Fate → Entry
  | .invalid => .skipped (e.typeName ++ " (invalid)")
  | .noFields => .skipped (e.typeName ++ " (no fields)")
  | .failed error => .failed (e.typeName ++ ": ValueError: " ++ error.message)
  | .rendered _ _ => .generated e.typeName

def Synthesis.entries (s : Synthesis) : List Entry := s.fates.map fun (e, fate) => fate.entry e

theorem entryOf_fateOf (settings : Settings) (entities : List Entity) (e : Entity) (i : Nat) :
    EntryOf settings (full entities settings) i e ((fateOf settings (full entities settings) i e).entry e) := by
  rw [fateOf]
  split
  · rename_i hc
    exact .invalid (condemn_iff_mem.mp hc)
  · rename_i hc
    have hmem : .int i ∉ (full entities settings).invalidIndexes := fun h => hc (condemn_iff_mem.mpr h)
    split
    · rename_i hf
      exact .noFields hmem (List.isEmpty_iff.mp hf)
    · rename_i hf
      have hf : e.fields ≠ [] := fun h => hf (List.isEmpty_iff.mpr h)
      split
      · rename_i error hr
        exact .failed error hmem hf hr
      · rename_i files hr
        exact .generated files hmem hf hr

theorem getElem?_entries (i : Nat) :
    (synthesise settings (full entities settings) entities).entries[i]? =
      (entities[i]?).map fun e => (fateOf settings (full entities settings) i e).entry e := by
  simp [Synthesis.entries, synthesise, Function.comp_def]

theorem filterMap_entries (s : Synthesis) {g : Entity × Fate → Option String} {f : Entry → Option String}
    (h : ∀ e fate, g (e, fate) = f (fate.entry e)) : s.fates.filterMap g = s.entries.filterMap f := by
  rw [Synthesis.entries, List.filterMap_map]
  exact List.filterMap_congr fun ⟨e, fate⟩ _ => h e fate

theorem skipped_eq (s : Synthesis) : s.skipped = s.entries.filterMap Entry.skipped? :=
  filterMap_entries s fun e fate => by cases fate <;> rfl

theorem generated_eq (s : Synthesis) : s.generated = s.entries.filterMap Entry.generated? :=
  filterMap_entries s fun e fate => by cases fate <;> rfl

theorem errors_eq (s : Synthesis) : s.errors = s.entries.filterMap Entry.failed? :=
  filterMap_entries s fun e fate => by cases fate <;> rfl

/-- Every entry is in one list. -/
theorem length_entries (entries : List Entry) :
    (entries.filterMap Entry.skipped?).length + (entries.filterMap Entry.generated?).length
      + (entries.filterMap Entry.failed?).length = entries.length := by
  induction entries with
  | nil => rfl
  | cons entry entries ih =>
    cases entry <;> simp only [List.filterMap_cons, Entry.skipped?, Entry.generated?, Entry.failed?,
      List.length_cons] <;> omega

/-- No fragment of a type that is not passed over fails. -/
theorem errors_synthesise : (synthesise settings (full entities settings) entities).errors = [] := by
  rw [errors_eq, List.filterMap_eq_nil_iff]
  intro entry hmem
  obtain ⟨i, hi⟩ := List.mem_iff_getElem?.mp hmem
  rw [getElem?_entries, Option.map_eq_some_iff] at hi
  obtain ⟨e, he, rfl⟩ := hi
  have hof := entryOf_fateOf settings entities e i
  generalize (fateOf settings (full entities settings) i e).entry e = entry at hof
  cases hof with
  | invalid => rfl
  | noFields => rfl
  | generated => rfl
  | failed error hvalid hf hr =>
    have ha := (accepted_of_not_condemned (Bool.eq_false_iff.mpr fun hc => hvalid (condemn_iff_mem.mp hc)) he).1
    rw [fileOf_accepted ha] at hr
    cases hr

/-! ## Runs without errors -/

/-- Without errors the lists are those of the types with and without fields. -/
theorem accounts_of_valid (h : (full entities settings).hasErrors = false) :
    let s := synthesise settings (full entities settings) entities
    s.skipped = (entities.filter (·.fields.isEmpty)).map (·.typeName ++ " (no fields)") ∧
      s.generated = (entities.filter (!·.fields.isEmpty)).map (·.typeName) := by
  have hentries : (synthesise settings (full entities settings) entities).entries = entities.map fun e =>
      if e.fields.isEmpty then Entry.skipped (e.typeName ++ " (no fields)") else .generated e.typeName := by
    refine List.ext_getElem? fun i => ?_
    rw [getElem?_entries, List.getElem?_map]
    refine Option.map_congr fun e he => ?_
    have ha := (accepted_of_full h).2 e (List.mem_of_getElem? he)
    simp only [fateOf, not_condemned h, fileOf_accepted ha, Bool.false_eq_true, if_false]
    split <;> rfl
  constructor
  · rw [skipped_eq, hentries, List.filterMap_map, ← List.filterMap_eq_map, List.filterMap_filter]
    refine List.filterMap_congr fun e _ => ?_
    by_cases hf : e.fields = [] <;> simp [hf, Entry.skipped?]
  · rw [generated_eq, hentries, List.filterMap_map, ← List.filterMap_eq_map, List.filterMap_filter]
    refine List.filterMap_congr fun e _ => ?_
    by_cases hf : e.fields = [] <;> simp [hf, Entry.generated?]

/-! ## Reports -/

theorem success_iff (r : Run) :
    r.report.success = true ↔ r.report.inputErrors = [] ∧ r.report.validationErrors = [] ∧
      r.report.generationErrors = [] ∧ r.report.exportErrors = [] := by
  simp only [Run.report, Report.hasNoErrors, Bool.and_eq_true, List.isEmpty_iff, and_assoc]

/-- A successful run had no errors about its types. -/
theorem hasErrors_of_success {r : Run} (hv : r.validation = some (full entities settings))
    (hs : r.report.success = true) : (full entities settings).hasErrors = false := by
  have hnone : r.report.validationErrors = [] := ((success_iff r).mp hs).2.1
  have herrors : (full entities settings).errors = [] := by
    rw [Run.report, Run.validationErrors, hv] at hnone
    simpa using (List.append_eq_nil_iff.mp hnone).1
  simpa [Validation.Diagnostics.hasErrors, Validation.Diagnostics.errors, List.filter_eq_nil_iff] using herrors

theorem invalid_ne_noFields (name other : String) : name ++ " (invalid)" ≠ other ++ " (no fields)" := by
  intro h
  have hlast := congrArg (fun s => s.toList.reverse.take 2) h
  revert hlast
  simp [String.toList_append]

variable (t : Tree) (options : Options) (input : Input) (output : Option Path)

/-- A run that comes to its fragments accounts for every type once, in order; it succeeds exactly if no stage has
  errors, and then it has generated all types with fields; and the program's exit code says which it was. -/
theorem report_accounts {s : Synthesis} (hs : (run t options input output).2.1.synthesis = some s) :
    ∃ entities settings,
      let r := (run t options input output).2.1
      let ds := full entities settings
      r.work = some (entities, settings) ∧ r.report.totalEntities = entities.length ∧ r.report.validation = some ds ∧
        (∃ entries : List Entry, entries.length = entities.length ∧
          (∀ i e, entities[i]? = some e → ∃ entry, entries[i]? = some entry ∧ EntryOf settings ds i e entry) ∧
          r.report.skipped = entries.filterMap Entry.skipped? ∧
          r.report.generated = entries.filterMap Entry.generated? ∧
          r.report.generationErrors = entries.filterMap Entry.failed?) ∧
        r.report.skipped.length + r.report.generated.length + r.report.generationErrors.length
          = r.report.totalEntities ∧
        (r.report.success = true ↔ r.report.inputErrors = [] ∧ r.report.validationErrors = [] ∧
          r.report.generationErrors = [] ∧ r.report.exportErrors = []) ∧
        (r.report.success = true → (∀ name, name ++ " (invalid)" ∉ r.report.skipped) ∧
          r.report.skipped = (entities.filter (·.fields.isEmpty)).map (·.typeName ++ " (no fields)") ∧
          r.report.generated = (entities.filter (!·.fields.isEmpty)).map (·.typeName)) ∧
        (∀ report : Report, report.exitCode = 0 ↔ report.success = true) ∧
        ∀ t a, (CommandLine.runArguments t a).exitCode = 0 ↔ ∃ output settings log,
          CommandLine.runArguments t a = CommandLine.runWith t a output settings log ∧
            CommandLine.Succeeds t a output settings := by
  obtain ⟨entities, settings, hw, -, -, rfl⟩ := (run_follows t options input output).1.synthesis s hs
  have hv := (run_follows t options input output).1.validation
  rw [hw, Option.map_some] at hv
  generalize hr : (run t options input output).2.1 = r at hs hw hv
  have htotal : r.report.totalEntities = entities.length := by simp [Run.report, hw]
  have hskipped : r.report.skipped = (synthesise settings (full entities settings) entities).skipped := by
    simp [Run.report, hs]
  have hgenerated : r.report.generated = (synthesise settings (full entities settings) entities).generated := by
    simp [Run.report, hs]
  have herrors : r.report.generationErrors = (synthesise settings (full entities settings) entities).errors := by
    simp [Run.report, hs]
  have hlength : (synthesise settings (full entities settings) entities).entries.length = entities.length := by
    simp [Synthesis.entries, synthesise]
  refine ⟨entities, settings, hw, htotal, hv, ⟨_, hlength, fun i e he => ⟨_, ?_, entryOf_fateOf settings entities e i⟩,
    hskipped.trans (skipped_eq _), hgenerated.trans (generated_eq _), herrors.trans (errors_eq _)⟩, ?_, success_iff r,
    fun hsuccess => ?_, CommandLine.exitCode_eq_zero, CommandLine.exitCode_runArguments⟩
  · rw [getElem?_entries, he, Option.map_some]
  · rw [hskipped, hgenerated, herrors, htotal, skipped_eq, generated_eq, errors_eq, ← hlength]
    exact_mod_cast length_entries _
  · obtain ⟨hnofields, hfields⟩ := accounts_of_valid (hasErrors_of_success hv hsuccess)
    refine ⟨fun name hmem => ?_, hskipped.trans hnofields, hgenerated.trans hfields⟩
    rw [hskipped, hnofields] at hmem
    obtain ⟨e, -, he⟩ := List.mem_map.mp hmem
    exact invalid_ne_noFields _ _ he.symm

/-- Without strictness a type that is marked twice is passed over, and the others are not. -/
theorem report_accounts_markedTwice :
    let marked (name : String) (n : Nat) : Entity := ⟨name, "items", ["title"], [], n, none, none, none, none⟩
    let r := (run ⟨[], []⟩ { strict := false } (.given [marked "Item" 2, marked "Note" 1] {}) none).2.1
    (∃ s, r.synthesis = some s) ∧
      r.report.skipped.length + r.report.generated.length + r.report.generationErrors.length
        = r.report.totalEntities := by
  intro marked r
  have ha : abort? { strict := false } (full [marked "Item" 2, marked "Note" 1] {}) = none := by decide +kernel
  have hs : r.synthesis = some (synthesise {} (full [marked "Item" 2, marked "Note" 1] {})
      [marked "Item" 2, marked "Note" 1]) := by
    simp only [r, run, Option.mapM_none, checkClean, collect, process, ha]
    rfl
  obtain ⟨-, -, -, -, -, -, hsum, -⟩ := report_accounts _ _ _ _ hs
  exact ⟨⟨_, hs⟩, hsum⟩

end CrudQueries.Generation
