/-
  CrudQueries.Proofs.Generation.Order — the order of the types does not matter.

  Types without errors are without errors in any order, and no two of their files have one path, so the files of a
  run are the same whatever the order they come in (`files_perm`). An export writes files in the order of their
  paths, which is a fixed one as long as the paths differ (`byPath_perm`); so two runs on the same types leave the
  same tree and the same inventory (`run_perm_given`). Nor does a type's fragment depend on the other types: each
  is the one rendered for the type alone (`order_irrelevant`).
-/

import CrudQueries.Proofs.Export.Success
import CrudQueries.Proofs.Generation.ValidPart

namespace CrudQueries.Export

open CrudQueries.Files (Path Tree)

variable {files others : List (String × String)}

theorem pairwise_byPath (files : List (String × String)) : (byPath files).Pairwise fun f g => f.1 ≤ g.1 := by
  have h : (byPath files).Pairwise fun f g => decide (f.1 ≤ g.1) = true := by
    unfold byPath
    refine List.pairwise_mergeSort ?_ ?_ files
    · intro f g k hfg hgk
      exact decide_eq_true (String.le_trans (of_decide_eq_true hfg) (of_decide_eq_true hgk))
    · intro f g
      rw [Bool.or_eq_true, decide_eq_true_iff, decide_eq_true_iff]
      exact String.le_total _ _
  exact h.imp fun hle => of_decide_eq_true hle

/-- Files with different paths are written in one order, whatever the order they come in. -/
theorem byPath_perm (hp : files.Perm others) (hn : (files.map (·.1)).Nodup) : byPath others = byPath files := by
  have hsame : (byPath files).Perm (byPath others) :=
    (List.mergeSort_perm _ _).trans (hp.trans (List.mergeSort_perm _ _).symm)
  refine (hsame.eq_of_pairwise ?_ (pairwise_byPath files) (pairwise_byPath others)).symm
  intro f g hf hg hle hge
  have hf : f ∈ files := mem_byPath.mp hf
  have hg : g ∈ files := hp.mem_iff.mpr (mem_byPath.mp hg)
  exact List.inj_on_of_nodup_map hn hf hg (String.le_antisymm hle hge)

theorem run_perm (hp : files.Perm others) (hn : (files.map (·.1)).Nodup) (t : Tree) (settings : Settings)
    (options : Options) (output : Path) :
    run t settings options output others = run t settings options output files := by
  unfold run
  rw [byPath_perm hp hn]

end CrudQueries.Export

namespace CrudQueries.Generation

open CrudQueries.Data
open CrudQueries.Files (Path Tree)
open CrudQueries.Fragment (markerPath markerText render renderAll)
open CrudQueries.Validation (accepted_of_full full hasErrors_full_perm hasErrors_full_sublist hasWarnings_full_perm)

variable {settings : Settings} {entities others : List Entity} {e : Entity}

/-! ## Files -/

theorem allFiles_of_valid (h : (full entities settings).hasErrors = false) :
    allFiles settings entities = (markerPath settings, markerText settings) ::
      (entities.filter (!·.fields.isEmpty)).flatMap (fragmentFiles settings) := by
  rw [← synthesise_files h, files_synthesise, generatedEntities_of_valid h]

/-- The files of types without errors have different paths. -/
theorem nodup_allFiles (h : (full entities settings).hasErrors = false) :
    ((allFiles settings entities).map (·.1)).Nodup := by
  refine List.Nodup.of_map Validation.pathKey ?_
  rw [List.map_map, ← synthesise_files h, files_synthesise]
  exact nodup_keys _ _

theorem files_perm (h : (full entities settings).hasErrors = false) (hp : entities.Perm others) :
    (allFiles settings entities).Perm (allFiles settings others) := by
  rw [allFiles_of_valid h, allFiles_of_valid (hasErrors_full_perm hp h)]
  exact ((hp.filter _).flatMap_right _).cons _

/-- The fragment of each type is among them. -/
theorem get?_allFiles (h : (full entities settings).hasErrors = false) (he : e ∈ entities) (hf : e.fields ≠ []) :
    ∃ text, render settings e = .ok (some text) ∧
      Entries.get? (allFiles settings entities) (Fragment.path settings e) = some text := by
  obtain ⟨text, hr, hfile⟩ := fragmentFiles_accepted ((accepted_of_full h).2 e he) hf
  refine ⟨text, hr, Entries.get?_of_mem (nodup_allFiles h) ?_⟩
  rw [allFiles_of_valid h]
  refine List.mem_cons_of_mem _ (List.mem_flatMap.mpr ⟨e, ?_, ?_⟩)
  · exact List.mem_filter.mpr ⟨he, by simpa using hf⟩
  · rw [hfile]
    exact List.mem_singleton_self _

/-! ## Runs -/

theorem abort?_perm (h : (full entities settings).hasErrors = false) (hp : entities.Perm others) (options : Options) :
    abort? options (full others settings) = abort? options (full entities settings) := by
  unfold abort?
  rw [h, hasErrors_full_perm hp h, hasWarnings_full_perm hp, Bool.false_and, Bool.false_and]

theorem process_perm (h : (full entities settings).hasErrors = false) (hp : entities.Perm others) (t : Tree) (r : Run) :
    (process t r others settings).1 = (process t r entities settings).1 ∧
      (process t r others settings).2.exported = (process t r entities settings).2.exported := by
  have hexport (output : Path) :
      Export.run t settings (exportOptions r.options) output
          (synthesise settings (full others settings) others).files =
        Export.run t settings (exportOptions r.options) output
          (synthesise settings (full entities settings) entities).files := by
    rw [synthesise_files h, synthesise_files (hasErrors_full_perm hp h)]
    exact Export.run_perm (files_perm h hp) (nodup_allFiles h) _ _ _ _
  unfold process
  simp only [abort?_perm h hp]
  split
  · exact ⟨rfl, rfl⟩
  · cases r.output with
    | none => exact ⟨rfl, rfl⟩
    | some output =>
      simp only [hexport, and_self]

theorem fault?_congr {r r' : Run} (hi : r'.intake = r.intake) (hx : r'.exported = r.exported) :
    r'.fault? = r.fault? := by
  unfold Run.fault?
  rw [hi, hx]

/-- Two runs on the same types without errors, in any order, leave the same tree and come to the same export. -/
theorem run_perm_given (h : (full entities settings).hasErrors = false) (hp : entities.Perm others) (t : Tree)
    (options : Options) (output : Option Path) :
    (run t options (.given others settings) output).1 = (run t options (.given entities settings) output).1 ∧
      (run t options (.given others settings) output).2.2 = (run t options (.given entities settings) output).2.2 ∧
      (run t options (.given others settings) output).2.1.exported =
        (run t options (.given entities settings) output).2.1.exported := by
  cases ho : output.mapM (fun p => t.resolve p) with
  | error e =>
    unfold run
    rw [ho]
    exact ⟨rfl, rfl, rfl⟩
  | ok place =>
    rw [run_on_given ho, run_on_given ho]
    simp only
    generalize hr : ({ options, output := place, intake := some .given } : Run) = r
    obtain ⟨htree, hexported⟩ := process_perm h hp t r
    obtain ⟨-, -, hintake, -⟩ := process_frame t r entities settings
    obtain ⟨-, -, hintake', -⟩ := process_frame t r others settings
    exact ⟨htree, fault?_congr (hintake'.trans hintake.symm) hexported, hexported⟩

theorem endsWithValidation_perm (h : (full entities settings).hasErrors = false) (hp : entities.Perm others)
    (options : Options) :
    endsWithValidation options (full others settings) = endsWithValidation options (full entities settings) := by
  unfold endsWithValidation
  rw [abort?_perm h hp]

/-- The report of a run on types without errors has all their files, unless the run ends with its validation. -/
theorem files_of_given (h : (full entities settings).hasErrors = false) {t : Tree} {output place : Option Path}
    (ho : output.mapM (fun p => t.resolve p) = .ok place) (options : Options) :
    (run t options (.given entities settings) output).2.1.report.files =
      if endsWithValidation options (full entities settings) then [] else allFiles settings entities := by
  obtain ⟨hfiles, -⟩ := report_of_given options entities settings ho
  rw [hfiles, synthesise_files h]

/-- Types without errors are without errors in any order, and each of them alone. Rendering them gives the same text
  for each path, and for each type with fields the one that it has alone. Runs on them leave the same tree and come to
  the same end with the same inventory, and the files they report are those that were rendered, unless they both end
  with their validation. A type's text is that of its name, its table and its fields: where it was found, how often it
  is marked and which positions are malformed does not show. -/
theorem order_irrelevant (h : (full entities settings).hasErrors = false) (hp : entities.Perm others) :
    (full others settings).hasErrors = false ∧
      (∃ files files', renderAll settings entities = .ok files ∧ renderAll settings others = .ok files' ∧
        (∀ path, Entries.get? files' path = Entries.get? files path) ∧
        (∀ e ∈ entities, e.fields ≠ [] → ∃ text alone, render settings e = .ok (some text) ∧
          Entries.get? files (Fragment.path settings e) = some text ∧
          (full [e] settings).hasErrors = false ∧ renderAll settings [e] = .ok alone ∧
          Entries.get? alone (Fragment.path settings e) = some text) ∧
        ∀ t options output,
          let one := run t options (.given entities settings) output
          let other := run t options (.given others settings) output
          other.1 = one.1 ∧ other.2.2 = one.2.2 ∧ other.2.1.report.inventory = one.2.1.report.inventory ∧
            ∀ place, output.mapM (fun (p : Path) => t.resolve p) = .ok place →
              let ends := endsWithValidation options (full entities settings)
              one.2.1.report.files = (if ends then [] else files) ∧
                other.2.1.report.files = if ends then [] else files') ∧
      ∀ (e : Entity) sourceFile line modulePath package markerCount malformed,
        render settings { e with sourceFile, line, modulePath, package, markerCount, malformed } = render settings e := by
  have hothers := hasErrors_full_perm hp h
  refine ⟨hothers, ⟨allFiles settings entities, allFiles settings others, renderAll_eq (accepted_of_full h).2,
    renderAll_eq (accepted_of_full hothers).2, ?_, ?_, ?_⟩, ?_⟩
  · exact fun path => Entries.get?_perm (files_perm h hp) (nodup_allFiles h) path
  · intro e he hf
    have halone : (full [e] settings).hasErrors = false := hasErrors_full_sublist (List.singleton_sublist.mpr he) h
    obtain ⟨text, hr, hget⟩ := get?_allFiles h he hf
    obtain ⟨text', hr', hget'⟩ := get?_allFiles halone (List.mem_singleton_self e) hf
    obtain rfl : text' = text := by
      rw [hr] at hr'
      exact (Option.some.inj (Except.ok.inj hr')).symm
    exact ⟨text', _, hr, hget, halone, renderAll_eq (accepted_of_full halone).2, hget'⟩
  · intro t options output one other
    obtain ⟨htree, hfault, hexported⟩ := run_perm_given h hp t options output
    refine ⟨htree, hfault, ?_, fun place ho => ⟨files_of_given h ho options, ?_⟩⟩
    · simp only [Run.report, other, one, hexported]
    · rw [← endsWithValidation_perm h hp]
      exact files_of_given hothers ho options
  · intro e sourceFile line modulePath package markerCount malformed
    rfl

/-- Two types written in either order leave one tree. -/
theorem order_irrelevant_swapped :
    let named (name : String) : Entity := ⟨name, "items", ["title"], [], 1, none, none, none, none⟩
    let out : Path := ⟨"/", ["out"]⟩
    (full [named "Item", named "Note"] {}).hasErrors = false ∧ [named "Item", named "Note"].Perm [named "Note", named "Item"] ∧
      (run ⟨[], []⟩ {} (.given [named "Note", named "Item"] {}) (some out)).1 =
        (run ⟨[], []⟩ {} (.given [named "Item", named "Note"] {}) (some out)).1 := by
  intro named out
  have hvalid : (full [named "Item", named "Note"] {}).hasErrors = false := by decide +kernel
  have hp : [named "Item", named "Note"].Perm [named "Note", named "Item"] := List.Perm.swap _ _ _
  obtain ⟨-, ⟨files, files', -, -, -, -, hruns⟩, -⟩ := order_irrelevant hvalid hp
  exact ⟨hvalid, hp, (hruns ⟨[], []⟩ {} (some out)).1⟩

end CrudQueries.Generation
