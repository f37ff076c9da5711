/-
  CrudQueries.Proofs.Generation.OnDisk — what a successful run has written.

  A run that has an output directory and succeeds has exported its files, without an error
  (`export_of_success`). So each was put where its path led, with its bytes, and is read there unless another
  was put at that place after it or a link on the way was taken away (`success_on_disk`); without links, and with
  plain paths, all of them are there (`read_plain`). The same holds of the inventory, which lists them all, if it
  was written: that it could not be is no error, and the run succeeds without it (`inventory_not_written`).
-/

import CrudQueries.Proofs.Export.Success
import CrudQueries.Proofs.Generation.Accounting
import CrudQueries.Proofs.Generation.Distinct
import CrudQueries.Proofs.Generation.Inputs
import CrudQueries.Proofs.Generation.Intake

namespace CrudQueries.Generation

open CrudQueries.Export (Landed Succeeded lastAt succeeded_of_errors)
open CrudQueries.Files (Path Tree partsOf)
open CrudQueries.Files.Tree (IsDirectory IsEntryName NoLinks get?_nil get?_of_ne_nil makeDirs_directory plainLocation
  plainLocation_of_not_mem read_directory resolve_directory)
open CrudQueries.Validation (full)

variable {t u : Tree} {options : Options} {input : Input} {output out : Path} {r : Run}

/-! ## Runs that export -/

theorem abort?_of_success {entities : List Entity} {settings : Settings}
    (hvalidation : r.validation = some (full entities settings)) (habort : r.abort = abort? options (full entities settings))
    (hs : r.report.success = true) : abort? options (full entities settings) = none := by
  have hnone : r.report.validationErrors = [] := ((success_iff r).mp hs).2.1
  have herrors := hasErrors_of_success hvalidation hs
  unfold Run.report Run.validationErrors at hnone
  simp only [hvalidation, habort] at hnone
  cases ha : abort? options (full entities settings) with
  | none => rfl
  | some abort =>
    cases abort with
    | errors =>
      unfold abort? at ha
      rw [herrors] at ha
      simp at ha
    | warnings =>
      rw [ha] at hnone
      simp at hnone

/-- Nothing but an error keeps a run with an output directory from its export. -/
theorem process_exported {entities : List Entity} {settings : Settings} (hv : r.options.validateOnly = false)
    (ho : r.output = some out) (hs : (process t r entities settings).2.report.success = true) :
    (process t r entities settings).2.output = some out ∧ ∃ x, (process t r entities settings).2.exported = some x := by
  obtain ⟨hvalidation, habort⟩ := process_validated t r entities settings
  have hgo : abort? r.options (full entities settings) = none := by
    generalize process t r entities settings = done at hvalidation habort hs
    exact abort?_of_success hvalidation habort hs
  rw [process]
  simp only [hgo, hv, ho]
  exact ⟨rfl, _, rfl⟩

theorem exported_of_success (hv : options.validateOnly = false)
    (hrun : run t options input (some output) = (u, r, none)) (hs : r.report.success = true) :
    ∃ out x, t.resolve output = .ok out ∧ r.output = some out ∧ r.exported = some x := by
  have hcourse := run_course t options input (some output)
  generalize run t options input (some output) = done at hcourse hrun
  cases hcourse with
  | lost e | unchecked place e => cases hrun
  | refused place c =>
    cases hrun
    have hinput := ((success_iff _).mp hs).1
    simp [Run.report, Run.inputErrors] at hinput
  | uncollected place ho hc hw =>
    simp only [Prod.mk.injEq] at hrun
    obtain ⟨-, rfl, -⟩ := hrun
    exact absurd ((success_iff _).mp hs).1 (inputErrors_of_uncollected hw rfl)
  | collected place entities settings ho hc hw u' r' hp =>
    simp only [Prod.mk.injEq] at hrun
    obtain ⟨-, rfl, -⟩ := hrun
    rw [Option.mapM_some] at ho
    cases hr : t.resolve output with
    | error e => simp [hr, Functor.map, Except.map] at ho
    | ok out =>
      simp only [hr, Functor.map, Except.map, Except.ok.injEq] at ho
      have hdone : (process t { options, output := place, intake := some (intakeOf t input) } entities
          settings).2.report.success = true := by
        rw [hp]
        exact hs
      obtain ⟨hout, x, hx⟩ := process_exported hv ho.symm hdone
      rw [hp] at hout hx
      exact ⟨out, x, rfl, hout, hx⟩

/-! ## The files of a successful run -/

theorem parts_join (p q : Path) : ∃ front, (p.join q).parts = front ++ q.parts := by
  unfold Path.join
  split
  · exact ⟨[], rfl⟩
  · exact ⟨p.parts, rfl⟩

/-- The location of no file is that of the inventory. -/
theorem IsFilePath.location_ne {path : String} (h : IsFilePath path) (t : Tree) (out : Path) :
    t.namedLocation (out.join (Path.ofText path)) ≠ t.namedLocation (out.join (Path.ofText Export.Inventory.fileName)) := by
  obtain ⟨folders, name, hparts, -, hname⟩ := h.partsOf_eq
  obtain ⟨front, hfront⟩ := parts_join out (Path.ofText path)
  obtain ⟨front', hfront'⟩ := parts_join out (Path.ofText Export.Inventory.fileName)
  have hfile : (Path.ofText path).parts = folders ++ [name] := hparts
  have hinventory : (Path.ofText Export.Inventory.fileName).parts = [Export.Inventory.fileName] := by decide
  rw [hfile, ← List.append_assoc] at hfront
  rw [hinventory] at hfront'
  intro heq
  have hlast := congrArg List.getLast? heq
  have hothers : ∀ other ∈ [".", "..", Export.Inventory.fileName],
      ¬ (".py".toList <:+ other.toList ∨ ".g.cs".toList <:+ other.toList) := by decide
  have hother : ∀ other ∈ [".", "..", Export.Inventory.fileName], name ≠ other := by
    rintro other hmem rfl
    exact hothers _ hmem hname
  rw [Tree.getLast?_namedLocation hfront (hother _ (by simp)) (hother _ (by simp)),
    Tree.getLast?_namedLocation hfront' (by decide) (by decide)] at hlast
  exact hother _ (by simp) (Option.some.inj hlast)

/-- A plain path describes the place of its parts below the output directory, so two describe two places. -/
theorem namedLocation_plain {path : String} (h : isPlainPath path = true) (t : Tree) (out : Path) :
    t.namedLocation (out.join (Path.ofText path)) = t.namedLocation out ++ partsOf path := by
  have hjoin := join_ofText_plain h out
  obtain ⟨names, -, hhere, hup, hnames⟩ := join_plain h out
  obtain rfl : names = partsOf path := List.append_cancel_left (congrArg Path.parts (hnames.symm.trans hjoin))
  rw [hjoin]
  show plainLocation (t.startOf out) (out.parts ++ partsOf path) = _
  unfold Tree.namedLocation plainLocation
  rw [List.foldl_append]
  exact plainLocation_of_not_mem hhere hup _

theorem plain_of_namedLocation {path other : String} (h : isPlainPath path = true) (h' : isPlainPath other = true)
    (heq : t.namedLocation (out.join (Path.ofText path)) = t.namedLocation (out.join (Path.ofText other))) :
    path = other := by
  rw [namedLocation_plain h, namedLocation_plain h'] at heq
  exact eq_of_partsOf h h' (List.append_cancel_left heq)

theorem report_exported {x : Export.Run} (h : r.exported = some x) :
    r.report.exportErrors = x.errors ∧ r.report.inventory = some x.inventory := by
  simp [Run.report, h]

/-- What a successful run has exported, without an error. -/
theorem export_of_success (hv : options.validateOnly = false)
    (hrun : run t options input (some output) = (u, r, none)) (hs : r.report.success = true) :
    ∃ out entities settings,
      t.resolve output = .ok out ∧ Validation.AcceptedSettings settings ∧
        r.report.files = (synthesise settings (full entities settings) entities).files ∧
        r.cleanedTree t = Export.cleaned t (exportOptions options) out ∧
        r.placements t = Export.exportPlacements t settings (exportOptions options) out r.report.files ∧
        u = (Export.run t settings (exportOptions options) out r.report.files).1 ∧
        r.exported = some (Export.run t settings (exportOptions options) out r.report.files).2 ∧
        Succeeded t (exportOptions options) out r.report.files := by
  obtain ⟨out, x, hresolve, hout, hx⟩ := exported_of_success hv hrun hs
  have hfollows := run_follows t options input (some output)
  have hleaves := run_leaves t options input (some output)
  rw [hrun] at hfollows hleaves
  simp only at hfollows hleaves
  obtain ⟨entities, settings, s, output', hw, hsynthesis, hout', rfl⟩ := hfollows.1.exported x hx
  obtain ⟨entities', settings', hw', -, hgo, hs'⟩ := hfollows.1.synthesis s hsynthesis
  obtain ⟨rfl, rfl⟩ : entities' = entities ∧ settings' = settings := by
    simpa using hw'.symm.trans hw
  obtain rfl : output' = out := Option.some.inj (hout'.symm.trans hout)
  have hoptions : r.options = options := hfollows.2
  have hfiles : r.report.files = s.files := by simp [Run.report, hsynthesis]
  have hexport : r.export? = some (settings', output', r.report.files) := by
    simp only [Run.export?, hx, hw, hout, hsynthesis, hfiles]
  have hexported : r.exported = some (Export.run t settings' (exportOptions options) output' r.report.files).2 := by
    rw [hx, hoptions, hfiles]
  have herrors : (Export.run t settings' (exportOptions options) output' r.report.files).2.errors = [] := by
    rw [← (report_exported hexported).1]
    exact ((success_iff r).mp hs).2.2.2
  refine ⟨output', entities', settings', hresolve, accepted_of_abort? hgo, by rw [hfiles, hs'], ?_, ?_, ?_, hexported,
    succeeded_of_errors herrors⟩
  · rw [Run.cleanedTree, hexport, hoptions]
  · rw [Run.placements, hexport, hoptions]
  · rw [hleaves, Run.leaves, hexport, hoptions]

/-- Where a tree has no links and all paths are plain, every file of a successful run is read at its path. -/
theorem read_plain (hv : options.validateOnly = false) (hrun : run t options input (some output) = (u, r, none))
    (hs : r.report.success = true) (hn : NoLinks (r.cleanedTree t))
    (hplain : ∀ f ∈ r.report.files, isPlainPath f.1 = true) :
    ∃ out, t.resolve output = .ok out ∧
      ∀ f ∈ r.report.files, u.read (out.join (Path.ofText f.1)) = .ok (Text.Utf8.encode f.2) := by
  obtain ⟨out, entities, settings, hresolve, ha, hfiles, hcleaned, -, rfl, -, hsucceeded⟩ :=
    export_of_success hv hrun hs
  rw [hcleaned] at hn
  refine ⟨out, hresolve, hsucceeded.read_noLinks rfl hn ?_ ?_⟩
  · intro f hf g hg heq
    have hpath := plain_of_namedLocation (hplain f hf) (hplain g hg) heq
    rw [hfiles] at hf hg
    have htext := (get?_files hf).symm.trans ((congrArg _ hpath).trans (get?_files hg))
    exact Prod.ext hpath (Option.some.inj htext)
  · intro f hf
    rw [hfiles] at hf
    exact (isFilePath_files entities ha f hf).location_ne _ _

/-- A run with an output directory that succeeds has put each of its files, whole, where its path led; the file is
  read there afterwards if nothing else was put at the place after it and no link on the way was replaced, and
  without links all are read whose paths name different locations. Its inventory has one record for each file and is
  put last, unless it could not be, which is a warning. -/
theorem success_on_disk (hv : options.validateOnly = false)
    (hrun : run t options input (some output) = (u, r, none)) (hs : r.report.success = true) :
    ∃ out inventory,
      let below (path : String) := out.join (Path.ofText path)
      t.resolve output = .ok out ∧ r.report.inventory = some inventory ∧
        inventory.files = (Export.byPath r.report.files).map (fun f => .of f.1 (below f.1).text f.2) ∧
        (∀ f ∈ r.report.files, ∃ moment place,
          Landed (r.cleanedTree t) u (r.placements t) (below f.1) (Text.Utf8.encode f.2) moment place ∧
            ((∀ q ∈ r.placements t, q.1 ∉ moment.linksTo (below f.1)) →
              lastAt (r.placements t) place = some (Text.Utf8.encode f.2) →
              u.read (below f.1) = .ok (Text.Utf8.encode f.2))) ∧
        (NoLinks (r.cleanedTree t) →
          (∀ f ∈ r.report.files, ∀ g ∈ r.report.files,
            (r.cleanedTree t).namedLocation (below f.1) = (r.cleanedTree t).namedLocation (below g.1) → f = g) →
          ∀ f ∈ r.report.files, u.read (below f.1) = .ok (Text.Utf8.encode f.2)) ∧
        (options.writeInventory = true →
          (∃ x e, r.exported = some x ∧ x.inventoryFile = some (.error e) ∧
            "Could not write manifest: " ++ e.message ∈ x.warnings) ∨
          ∃ moment place,
            Landed (r.cleanedTree t) u (r.placements t) (below Export.Inventory.fileName)
                (Text.Utf8.encode inventory.text) moment place ∧
              lastAt (r.placements t) place = some (Text.Utf8.encode inventory.text) ∧
              ((∀ q ∈ r.placements t, q.1 ∉ moment.linksTo (below Export.Inventory.fileName)) →
                u.read (below Export.Inventory.fileName) = .ok (Text.Utf8.encode inventory.text))) := by
  obtain ⟨out, entities, settings, hresolve, ha, hfiles, hcleaned, hplacements, rfl, hx, hsucceeded⟩ :=
    export_of_success hv hrun hs
  rw [hcleaned, hplacements]
  refine ⟨out, _, hresolve, (report_exported hx).2, hsucceeded.inventory_files rfl, ?_, ?_, ?_⟩
  · intro f hf
    obtain ⟨moment, place, hl⟩ := hsucceeded.landed settings rfl f hf
    exact ⟨moment, place, hl, hl.read⟩
  · intro hn hdistinct
    refine hsucceeded.read_noLinks rfl hn hdistinct ?_
    intro f hf
    rw [hfiles] at hf
    exact (isFilePath_files entities ha f hf).location_ne _ _
  · intro hi
    rcases hsucceeded.inventory_landed settings rfl hi with ⟨e, he⟩ | ⟨moment, place, hlast, hl⟩
    · refine .inl ⟨_, e, hx, he, ?_⟩
      rw [Export.Run.warnings, he]
      exact List.mem_append_right _ (List.mem_singleton_self _)
    · exact .inr ⟨moment, place, hl, hlast, fun hlinks => hl.read hlinks hlast⟩

/-! ## Runs without types -/

section given

variable (h : IsDirectory t ["out"]) (hfree : t.get? ["out", "query_fields.py"] ≠ some .dir)
include h

/-- A run without types exports the marker alone. -/
theorem run_given :
    run t {} (.given [] {}) (some ⟨"/", ["out"]⟩) =
      let files := [("query_fields.py", Fragment.markerText {})]
      let done := Export.run t {} (exportOptions {}) ⟨"/", ["out"]⟩ files
      (done.1,
        { options := {}, output := some ⟨"/", ["out"]⟩, intake := some .given, work := some ([], {}),
          validation := some (full [] {}), synthesis := some ⟨[], files⟩, exported := some done.2 },
        done.2.fault.map .ofTrouble) := by
  have hm : Fragment.markerPath {} = "query_fields.py" := by decide
  have hs : ∀ ds, synthesise {} ds [] = ⟨[], [("query_fields.py", Fragment.markerText {})]⟩ := by
    simp [synthesise, hm, Data.Entries.putAll]
  have ha : abort? {} (full [] {}) = none := by decide
  have ho : (some ⟨"/", ["out"]⟩ : Option Path).mapM (fun p => t.resolve p) = .ok (some ⟨"/", ["out"]⟩) := by
    rw [Option.mapM_some, resolve_directory h]
    rfl
  rw [run]
  simp only [ho, checkClean, collect, process, ha, hs, Bool.not_false, if_true,
    Option.isSome_none, Bool.or_false, Bool.false_eq_true, if_false, Run.fault?, Option.bind_some]

include hfree

theorem filesWritten_given :
    Export.filesWritten t (exportOptions {}) ⟨"/", ["out"]⟩ [("query_fields.py", Fragment.markerText {})] =
      (t.put ["out", "query_fields.py"] (.file (Text.Utf8.encode (Fragment.markerText {}))),
        [⟨"query_fields.py", .ok (.of "query_fields.py" "/out/query_fields.py" (Fragment.markerText {}))⟩]) := by
  have hn : IsEntryName "query_fields.py" := by decide
  have hwrite := Export.writeFile_directory h hn hfree (exportOptions {}) rfl (Fragment.markerText {})
  unfold Export.filesWritten
  rw [Export.cleaned_of_not_clean t rfl, makeDirs_directory h, Export.byPath, List.mergeSort_singleton,
    Export.writeFiles, hwrite]
  rfl

theorem succeeded_given :
    Succeeded t (exportOptions {}) ⟨"/", ["out"]⟩ [("query_fields.py", Fragment.markerText {})] := by
  refine ⟨?_, ?_⟩
  · rw [Export.cleaned_of_not_clean t rfl, makeDirs_directory h]
  · intro w hw
    rw [filesWritten_given h hfree] at hw
    obtain rfl := List.mem_singleton.mp hw
    exact ⟨_, rfl⟩

/-- It succeeds wherever it can write the marker. -/
theorem success_given :
    (run t {} (.given [] {}) (some ⟨"/", ["out"]⟩)).2.2 = none ∧
      (run t {} (.given [] {}) (some ⟨"/", ["out"]⟩)).2.1.report.success = true := by
  obtain ⟨herrors, hfault⟩ := (succeeded_given h hfree).noErrors {}
  rw [run_given h]
  simp only
  generalize Export.run t {} (exportOptions {}) ⟨"/", ["out"]⟩ [("query_fields.py", Fragment.markerText {})] = done
    at herrors hfault
  rw [success_iff, (report_exported rfl).1, herrors, hfault]
  have hvalid : (full [] {}).errors = [] := by decide
  refine ⟨rfl, rfl, ?_, rfl, rfl⟩
  simp [Run.report, Run.validationErrors, hvalid]

end given

/-- An empty output directory. -/
def emptyOutput : Tree := ⟨[], [(["out"], .dir)]⟩

theorem isDirectory_emptyOutput : IsDirectory emptyOutput ["out"] := Tree.isDirectory_single (by decide)

theorem noLinks_emptyOutput : NoLinks emptyOutput := by
  intro q target hq
  by_cases hroot : q = []
  · rw [hroot, get?_nil] at hq
    cases hq
  · rw [get?_of_ne_nil _ hroot] at hq
    have hmem := Data.Entries.mem_of_get? hq
    simp [emptyOutput] at hmem

theorem success_on_disk_emptyOutput :
    let done := run emptyOutput {} (.given [] {}) (some ⟨"/", ["out"]⟩)
    done.2.2 = none ∧ done.2.1.report.success = true ∧ NoLinks (done.2.1.cleanedTree emptyOutput) ∧
      done.1.read ⟨"/", ["out", "query_fields.py"]⟩ = .ok (Text.Utf8.encode (Fragment.markerText {})) := by
  obtain ⟨hfault, hs⟩ := success_given isDirectory_emptyOutput (by decide)
  have hrun := run_given isDirectory_emptyOutput
  have hnolinks : NoLinks ((run emptyOutput {} (.given [] {}) (some ⟨"/", ["out"]⟩)).2.1.cleanedTree emptyOutput) := by
    rw [hrun]
    exact noLinks_emptyOutput
  have hfiles : (run emptyOutput {} (.given [] {}) (some ⟨"/", ["out"]⟩)).2.1.report.files =
      [("query_fields.py", Fragment.markerText {})] := by
    rw [hrun]
    rfl
  obtain ⟨out, inventory, hresolve, -, -, -, hread, -⟩ :=
    success_on_disk rfl (Prod.ext rfl (Prod.ext rfl hfault)) hs
  rw [resolve_directory isDirectory_emptyOutput] at hresolve
  obtain rfl := Except.ok.inj hresolve
  refine ⟨hfault, hs, hnolinks, hread hnolinks ?_ ("query_fields.py", Fragment.markerText {}) ?_⟩
  · intro f hf g hg _
    rw [hfiles, List.mem_singleton] at hf hg
    rw [hf, hg]
  · rw [hfiles]
    exact List.mem_singleton_self _

/-- An output directory that has a directory with the name of the inventory. -/
def inventoryIsDirectory : Tree := ⟨[], [(["out"], .dir), (["out", "manifest.json"], .dir)]⟩

theorem isDirectory_inventory : IsDirectory inventoryIsDirectory ["out"] ∧
    IsDirectory inventoryIsDirectory ["out", "manifest.json"] := by
  have hn : IsEntryName "out" ∧ IsEntryName "manifest.json" := by decide
  refine ⟨⟨by simp [hn.1], fun n => ?_⟩, ⟨by simp [hn.1, hn.2], fun n => ?_⟩⟩
  · rcases n with _ | n
    · rfl
    · simp [inventoryIsDirectory, Files.Tree.get?, Data.Entries.get?]
  · rcases n with _ | _ | n
    · rfl
    · simp [inventoryIsDirectory, Files.Tree.get?, Data.Entries.get?]
    · simp [inventoryIsDirectory, Files.Tree.get?, Data.Entries.get?]

/-- Then the run succeeds, and there is no inventory to read. -/
theorem inventory_not_written :
    let done := run inventoryIsDirectory {} (.given [] {}) (some ⟨"/", ["out"]⟩)
    done.2.2 = none ∧ done.2.1.report.success = true ∧ done.2.1.options.writeInventory = true ∧
      ∀ bytes, done.1.read ⟨"/", ["out", "manifest.json"]⟩ ≠ .ok bytes := by
  obtain ⟨hout, hdir⟩ := isDirectory_inventory
  have hfree : inventoryIsDirectory.get? ["out", "query_fields.py"] ≠ some .dir := by
    simp [inventoryIsDirectory, Files.Tree.get?, Data.Entries.get?]
  have hn : IsEntryName Export.Inventory.fileName := by decide
  obtain ⟨hfault, hs⟩ := success_given hout hfree
  refine ⟨hfault, hs, by rw [run_given hout], ?_⟩
  have hleft : (run inventoryIsDirectory {} (.given [] {}) (some ⟨"/", ["out"]⟩)).1 =
      inventoryIsDirectory.put ["out", "query_fields.py"] (.file (Text.Utf8.encode (Fragment.markerText {}))) := by
    rw [run_given hout]
    simp only [(succeeded_given hout hfree).run_eq, filesWritten_given hout hfree]
    rw [Export.writeInventory_eq rfl]
    exact Export.writeFile_taken (hout.put hfree _) hn (hdir.put hfree _) _ rfl _
  intro bytes
  rw [hleft, read_directory (hdir.put hfree _)]
  simp

end CrudQueries.Generation
