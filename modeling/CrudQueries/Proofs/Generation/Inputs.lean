/-
  CrudQueries.Proofs.Generation.Inputs — what a run does to the files that it reads.

  A run reads its input before it writes anything, so every file that it took entities or a manifest
  from is at some place in the tree that the run began with (`find_of_inputFiles`). The run then
  changes the tree only by its export. Hence such a file is kept exactly if the last file put at its
  place has its bytes or, where none was put, if clearing the output directory left it
  (`inputs_kept_iff`). Neither is certain: the inventory has a fixed name, which a manifest may have
  too (`manifest_overwritten`).
-/

import CrudQueries.Proofs.Export.Placement
import CrudQueries.Proofs.Files.Clearing
import CrudQueries.Proofs.Generation.Stages
import Mathlib

namespace CrudQueries.Generation

open CrudQueries.Discovery (Visit search searchPath visit)
open CrudQueries.Export (Placement cleaned cleaned_of_not_clean exportPlacements lastAt lastAt_inventory places_run)
open CrudQueries.Files (Location Path Tree)
open CrudQueries.Files.Tree (IsDirectory IsEntryName clear_spec entry?_file readText_file resolve_directory)

/-! ## The files that are read -/

/-- The files that a run took something from: sources with entities, or a manifest. -/
def Run.inputFiles (r : Run) : List Path :=
  match r.intake with
  | some (.searched s) => (s.visits.filter fun v => !v.entities.isEmpty).map (·.path)
  | some (.loaded l) =>
    match l.document with
    | .ok _ => [l.path]
    | .error _ => []
  | _ => []

theorem find_of_readText {t : Tree} {p : Path} {text : String} (h : t.readText p = .ok text) :
    ∃ place bytes, t.find true p = .ok (.found place (.file bytes)) := by
  simp only [Tree.readText, Tree.read, bind, Except.bind] at h
  cases hf : t.find true p with
  | error e => simp [hf, Except.mapError] at h
  | ok found =>
    cases found with
    | missing parent name => simp [hf, Except.mapError] at h
    | found place entry =>
      cases entry with
      | file bytes => exact ⟨place, bytes, rfl⟩
      | dir => simp [hf, Except.mapError] at h
      | link target => simp [hf, Except.mapError] at h

theorem visit_of_searchPath {t : Tree} {settings : Settings} {path : Path} {visits : List Visit}
    (h : searchPath t settings path = .ok visits) : ∀ v ∈ visits, ∃ base, v = visit t settings base v.path := by
  simp only [searchPath, bind, Except.bind] at h
  cases hr : (t.resolve path).mapError Discovery.Stop.trouble with
  | error e => simp [hr] at h
  | ok root =>
    cases he : (t.entry? root).mapError Discovery.Stop.trouble with
    | error e => simp [hr, he] at h
    | ok entry =>
      intro v hv
      rcases entry with _ | ⟨bytes⟩ | _ | ⟨target⟩ <;> simp only [hr, he, reduceCtorEq, Except.ok.injEq] at h <;> subst h
      · simp only [List.mem_singleton] at hv
        exact ⟨root.parent, by subst hv; rfl⟩
      all_goals
        obtain ⟨path, -, rfl⟩ := List.mem_map.mp hv
        exact ⟨root, rfl⟩

theorem visit_of_search {t : Tree} {settings : Settings} {paths : List Path} :
    ∀ v ∈ (search t settings paths).visits, ∃ base, v = visit t settings base v.path := by
  induction paths with
  | nil => intro v hv; simp [search] at hv
  | cons path rest ih =>
    intro v hv
    rw [search] at hv
    cases hp : searchPath t settings path with
    | error stop => simp [hp] at hv
    | ok visits =>
      simp only [hp, List.mem_append] at hv
      rcases hv with hv | hv
      · exact visit_of_searchPath hp v hv
      · exact ih v hv

/-- A visit that gave entities has read its file. -/
theorem find_of_visit {t : Tree} {settings : Settings} {base path : Path}
    (h : (visit t settings base path).entities ≠ []) :
    ∃ place bytes, t.find true path = .ok (.found place (.file bytes)) := by
  cases ht : t.readText path with
  | ok text => exact find_of_readText ht
  | error e => simp [Visit.entities, visit, ht, Except.mapError, bind, Except.bind] at h

theorem find_of_loadDocument {t : Tree} {path : Path} {m : Manifest.Mapping}
    (h : Manifest.loadDocument t path = .ok m) : ∃ place bytes, t.find true path = .ok (.found place (.file bytes)) := by
  cases ht : t.readText path with
  | ok text => exact find_of_readText ht
  | error e =>
    simp only [Manifest.loadDocument, bind, Except.bind] at h
    cases hc : Manifest.checkFile t path with
    | error e => simp [hc] at h
    | ok _ =>
      simp only [hc, Manifest.readDocument, ht] at h
      split at h
      · cases h
      · split at h
        · cases h
        · split at h <;> cases h

/-! ## The change that a run makes -/

/-- What the export of a run was given: settings, output directory and files. -/
def Run.export? (r : Run) : Option (Settings × Path × List (String × String)) :=
  match r.exported, r.work, r.output, r.synthesis with
  | some _, some (_, settings), some output, some s => some (settings, output, s.files)
  | _, _, _, _ => none

/-- The tree that a run leaves. -/
def Run.leaves (t : Tree) (r : Run) : Tree :=
  match r.export? with
  | none => t
  | some (settings, output, files) => (Export.run t settings (exportOptions r.options) output files).1

/-- The tree in which a run puts its files: what clearing the output directory leaves. -/
def Run.cleanedTree (t : Tree) (r : Run) : Tree :=
  match r.export? with
  | none => t
  | some (_, output, _) => cleaned t (exportOptions r.options) output

/-- The places where a run puts files, and the bytes. -/
def Run.placements (t : Tree) (r : Run) : List Placement :=
  match r.export? with
  | none => []
  | some (settings, output, files) => exportPlacements t settings (exportOptions r.options) output files

theorem process_leaves (t : Tree) (r : Run) (entities : List Entity) (settings : Settings) (hr : r.exported = none) :
    (process t r entities settings).1 = (process t r entities settings).2.leaves t := by
  rw [process]
  simp only
  split
  · simp [Run.leaves, Run.export?, hr]
  · cases ho : r.output with
    | none => simp [Run.leaves, Run.export?, hr]
    | some output => simp [Run.leaves, Run.export?]

/-- A run changes the tree by its export alone. -/
theorem run_leaves (t : Tree) (options : Options) (input : Input) (output : Option Path) :
    (run t options input output).1 = (run t options input output).2.1.leaves t := by
  have hcourse := run_course t options input output
  generalize run t options input output = done at hcourse ⊢
  cases hcourse with
  | lost | unchecked | refused | uncollected => rfl
  | collected place entities settings ho hc hw u r hp =>
    have hleaves := process_leaves t { options, output := place, intake := some (intakeOf t input) } entities settings rfl
    rwa [hp] at hleaves

/-- The files that a run took something from are in the tree it began with. -/
theorem find_of_inputFiles {t : Tree} {options : Options} {input : Input} {output : Option Path} {p : Path}
    (h : p ∈ (run t options input output).2.1.inputFiles) :
    ∃ place bytes, t.find true p = .ok (.found place (.file bytes)) := by
  rw [Run.inputFiles] at h
  rcases run_intake t options input output with hi | hi
  · rw [hi] at h
    cases h
  · rw [hi] at h
    cases input with
    | given entities settings => cases h
    | sources paths settings =>
      obtain ⟨v, hm, rfl⟩ := List.mem_map.mp h
      obtain ⟨hm, hne⟩ := List.mem_filter.mp hm
      obtain ⟨base, hb⟩ := visit_of_search v hm
      rw [hb] at hne
      exact find_of_visit (by simpa using hne)
    | manifest path overrides =>
      simp only [intakeOf] at h
      split at h
      · rename_i m hd
        obtain rfl := List.mem_singleton.mp h
        exact find_of_loadDocument hd
      · cases h

/-- Clearing takes a file away only if it is asked for and the file lies at or below a name that is
  cleared and, where it meets no trouble, always then. -/
theorem get?_cleanedTree {t : Tree} (hn : t.HasPlainNames) {r : Run} {settings : Settings} {output : Path}
    {files : List (String × String)} (he : r.export? = some (settings, output, files)) (q : Location) :
    ((r.options.clean = true → ∀ place, t.find true output = .ok (.found place .dir) →
        ∀ n ∈ t.clearedNames place true, ¬ place ++ [n] <+: q) → (r.cleanedTree t).get? q = t.get? q) ∧
      (r.options.clean = true → (t.clear output true).trouble = none →
        ∀ place, t.find true output = .ok (.found place .dir) →
        ∀ n ∈ t.clearedNames place true, place ++ [n] <+: q → (r.cleanedTree t).get? q = none) := by
  obtain ⟨hkeep, hgone⟩ := clear_spec hn output true
  simp only [Run.cleanedTree, he]
  cases hc : r.options.clean with
  | false => exact ⟨fun _ => by rw [cleaned_of_not_clean t hc], fun h => by cases h⟩
  | true =>
    have ht : cleaned t (exportOptions r.options) output = (t.clear output true).tree := by
      simp only [cleaned, Export.cleanOutput, exportOptions, hc, if_true]
      split <;> rfl
    rw [ht]
    exact ⟨fun h => hkeep q (h rfl), fun _ h place hf n hm hq => hgone h place hf n hm q hq⟩

/-- A file that a run read is kept exactly if the last file put at its place has its bytes or, where
  none was put, if clearing the output directory left it. -/
theorem inputs_kept_iff (t : Tree) (options : Options) (input : Input) (output : Option Path) :
    ∀ p ∈ (run t options input output).2.1.inputFiles,
      ∃ place bytes, t.find true p = .ok (.found place (.file bytes)) ∧
        ((run t options input output).1.get? place = some (.file bytes) ↔
          match lastAt ((run t options input output).2.1.placements t) place with
          | some b => b = bytes
          | none => ((run t options input output).2.1.cleanedTree t).get? place = some (.file bytes)) := by
  intro p hp
  obtain ⟨place, bytes, hf⟩ := find_of_inputFiles hp
  refine ⟨place, bytes, hf, ?_⟩
  rw [run_leaves, Run.leaves, Run.placements, Run.cleanedTree]
  cases (run t options input output).2.1.export? with
  | none => simp [lastAt]
  | some e => exact (places_run _ _ _ _ _).file_iff place bytes

/-- A manifest with the name of the inventory, in an output directory. -/
def manifestInOutput : Tree :=
  ⟨[], [(["out"], .dir), (["out", "manifest.json"], .file (Text.Utf8.encode "\x7b\"entities\": []\x7d"))]⟩

theorem isDirectory_out : IsDirectory manifestInOutput ["out"] :=
  Files.Tree.isDirectory_of_dir (by decide) (by simp [manifestInOutput, Files.Tree.get?, Data.Entries.get?])

theorem loadDocument_out :
    Manifest.loadDocument manifestInOutput ⟨"/", ["out", "manifest.json"]⟩ = .ok [(.text "entities", .list [])] := by
  have hn : IsEntryName "manifest.json" := by decide
  have hg : manifestInOutput.get? (["out"] ++ ["manifest.json"]) = some (.file (Text.Utf8.encode "\x7b\"entities\": []\x7d")) := by
    simp [manifestInOutput, Files.Tree.get?, Data.Entries.get?]
  have he := entry?_file isDirectory_out hn hg
  have hr := readText_file isDirectory_out hn hg (by cbv) (by decide)
  simp only [List.singleton_append] at he hr
  have hj : Manifest.ofJson "/out/manifest.json" "\x7b\"entities\": []\x7d" = .ok [(.text "entities", .list [])] := by cbv
  have hs : Manifest.suffixOf ⟨"/", ["out", "manifest.json"]⟩ = ".json" := by decide
  simp only [Manifest.loadDocument, Manifest.checkFile, he, Manifest.readDocument, hs, hr, bind, Except.bind]
  rw [if_neg (by decide), if_pos (by decide)]
  exact hj

theorem load_out : (load manifestInOutput ⟨"/", ["out", "manifest.json"]⟩ []).content =
    some (.ok (⟨[], some "/out/manifest.json"⟩, {})) := by
  have ho : Manifest.outline [(.text "entities", .list [])] = .ok ⟨[], none⟩ := by cbv
  have hr : (⟨[], none⟩ : Manifest.Outline).read (some "/out/manifest.json") [] =
      .ok (⟨[], some "/out/manifest.json"⟩, {}) := by cbv
  have hp : (⟨"/", ["out", "manifest.json"]⟩ : Path).text = "/out/manifest.json" := by decide
  simp only [load, loadDocument_out, Except.toOption, Option.map_some, Option.bind_some, ho, hp, hr]

/-- The run on that manifest into its own directory exports the marker alone. -/
theorem run_out :
    let done := run manifestInOutput {} (.manifest ⟨"/", ["out", "manifest.json"]⟩ []) (some ⟨"/", ["out"]⟩)
    done.1 = (Export.run manifestInOutput {} (exportOptions {}) ⟨"/", ["out"]⟩
        [("query_fields.py", Fragment.markerText {})]).1 ∧
      done.2.1.inputFiles = [⟨"/", ["out", "manifest.json"]⟩] := by
  have hm : Fragment.markerPath {} = "query_fields.py" := by decide
  have hs : ∀ ds, synthesise {} ds [] = ⟨[], [("query_fields.py", Fragment.markerText {})]⟩ := by
    simp [synthesise, hm, Data.Entries.putAll]
  have ha : abort? {} (Validation.full [] {}) = none := by decide
  have ho : (some ⟨"/", ["out"]⟩ : Option Path).mapM (fun p => manifestInOutput.resolve p) =
      .ok (some ⟨"/", ["out"]⟩) := by
    rw [Option.mapM_some, resolve_directory isDirectory_out]
    rfl
  have hd : (load manifestInOutput ⟨"/", ["out", "manifest.json"]⟩ []).document =
      .ok [(.text "entities", .list [])] := loadDocument_out
  rw [run]
  simp only [ho, checkClean, collect, load_out, process, ha, hs, Bool.not_false, Bool.or_false, if_true,
    Option.isSome_none, Bool.false_eq_true, if_false, Run.inputFiles, hd, true_and]
  rfl

theorem inputs_kept_iff_manifest :
    let done := run manifestInOutput {} (.manifest ⟨"/", ["out", "manifest.json"]⟩ []) (some ⟨"/", ["out"]⟩)
    ⟨"/", ["out", "manifest.json"]⟩ ∈ done.2.1.inputFiles ∧
      ∃ place bytes,
        manifestInOutput.find true ⟨"/", ["out", "manifest.json"]⟩ = .ok (.found place (.file bytes)) ∧
        (done.1.get? place = some (.file bytes) ↔
          match lastAt (done.2.1.placements manifestInOutput) place with
          | some b => b = bytes
          | none => (done.2.1.cleanedTree manifestInOutput).get? place = some (.file bytes)) := by
  have hm : ⟨"/", ["out", "manifest.json"]⟩ ∈
      (run manifestInOutput {} (.manifest ⟨"/", ["out", "manifest.json"]⟩ []) (some ⟨"/", ["out"]⟩)).2.1.inputFiles := by
    rw [run_out.2]
    exact List.mem_singleton_self _
  exact ⟨hm, inputs_kept_iff manifestInOutput {} _ _ _ hm⟩

/-- The inventory of a run takes the place of the manifest that the run read. -/
theorem manifest_overwritten :
    let done := run manifestInOutput {} (.manifest ⟨"/", ["out", "manifest.json"]⟩ []) (some ⟨"/", ["out"]⟩)
    ⟨"/", ["out", "manifest.json"]⟩ ∈ done.2.1.inputFiles ∧
      manifestInOutput.get? ["out", "manifest.json"] = some (.file (Text.Utf8.encode "\x7b\"entities\": []\x7d")) ∧
      done.1.get? ["out", "manifest.json"] ≠ some (.file (Text.Utf8.encode "\x7b\"entities\": []\x7d")) := by
  obtain ⟨ht, hf⟩ := run_out
  have hn : IsEntryName "query_fields.py" := by decide
  have hm : manifestInOutput.get? (["out"] ++ ["query_fields.py"]) ≠ some .dir := by
    simp [manifestInOutput, Files.Tree.get?, Data.Entries.get?]
  have hi : manifestInOutput.get? (["out"] ++ ["manifest.json"]) ≠ some .dir := by
    simp [manifestInOutput, Files.Tree.get?, Data.Entries.get?]
  obtain ⟨written, hl⟩ := lastAt_inventory {} (exportOptions {}) (Fragment.markerText {}) rfl rfl rfl isDirectory_out hn hm hi
  refine ⟨by rw [hf]; exact List.mem_singleton_self _,
    by simp [manifestInOutput, Files.Tree.get?, Data.Entries.get?], fun hkept => ?_⟩
  rw [ht, (places_run manifestInOutput {} (exportOptions {}) ⟨"/", ["out"]⟩ _).file_iff,
    show lastAt _ ["out", "manifest.json"] = _ from hl] at hkept
  simp only [Text.Utf8.encode, String.toUTF8_eq_toByteArray, String.toByteArray_inj] at hkept
  have hlast := congrArg (fun s => s.toList.getLast?) hkept
  simp [Export.inventoryText, Export.Inventory.text] at hlast

end CrudQueries.Generation
