/-
  CrudQueries.Proofs.Generation.Reported — when a run on a manifest has a report.

  Whatever is at fault with the mapping that a manifest holds is an input error of the report, or is left
  to validation (`run_of_noManifest`, `run_of_manifest`). There is one thing that neither takes up: a package with a null
  character, which validation does not look at. The folders of a fragment are made of it, no directory
  can have such a name, and the export ends with an error of a kind that it does not pass over. So a run
  on a manifest that can be read has a report exactly if the paths that are resolved before it begins
  can be, and it does not come to such a fragment (`manifest_reported_iff`).
-/

import CrudQueries.Proofs.Export.Fault
import CrudQueries.Proofs.Generation.Again
import CrudQueries.Proofs.Generation.Intake
import CrudQueries.Proofs.Generation.OnDisk

namespace CrudQueries.Generation

open CrudQueries.Export (cleaned run_fault)
open CrudQueries.Files (Path Tree partsOf)
open CrudQueries.Files.Tree (IsDirectory IsEntryName entry?_file makeDirs_directory readText_file resolve_directory)
open CrudQueries.Fragment (fileName markerPath packageFolders)
open CrudQueries.Manifest (ContentError Mapping loadDocument ofMapping)
open CrudQueries.Text
open CrudQueries.Validation (AcceptedEntity AcceptedSettings full)

variable {t : Tree} {options : Options} {settings : Settings} {entities : List Entity} {e : Entity} {out : Path}

/-! ## The names of files -/

/-- The last part of a path is the name of its file, wherever the path begins. -/
theorem name_join {path name : String} {folders : List (List Char)}
    (h : splitOnChar '/' path.toList = folders ++ [name.toList]) (hn : 2 < name.toList.length) (out : Path) :
    (out.join (Path.ofText path)).name = name := by
  have hparts : ∃ front, partsOf path = front ++ [name] := by
    have hempty : name.toList ≠ [] ∧ name.toList ≠ ['.'] := by
      constructor <;> intro hname <;> rw [hname] at hn <;> revert hn <;> decide
    refine ⟨(folders.filter fun part => part != [] && part != ['.']).map String.ofList, ?_⟩
    rw [partsOf, h, List.filter_append, List.filter_cons_of_pos (by simpa using hempty), List.map_append]
    simp
  obtain ⟨front, hparts⟩ := hparts
  unfold Path.join
  split
  · simp [Path.name, Path.ofText, hparts]
  · simp [Path.name, Path.ofText, hparts]

theorem splitOnChar_path (hs : AcceptedSettings settings) (he : AcceptedEntity settings e) :
    ∃ folders, splitOnChar '/' (Fragment.path settings e).toList = folders ++ [(fileName settings e).toList] := by
  have hslash := (fileName_plain hs he).1
  unfold Fragment.path
  split
  · exact ⟨[], splitOnChar_of_not_mem hslash⟩
  · rw [String.toList_intercalate, show "/".toList = ['/'] by decide, splitOnChar_intercalate _ (by simp),
      List.map_append, List.flatMap_append]
    refine ⟨((packageFolders e.outputPackage).map String.toList).flatMap (splitOnChar '/'), ?_⟩
    simp [splitOnChar_of_not_mem hslash]

/-- No file has a name with a null character. -/
theorem null_not_mem_name (entities : List Entity) (hs : AcceptedSettings settings) (out : Path) :
    ∀ f ∈ (synthesise settings (full entities settings) entities).files,
      '\x00' ∉ (out.join (Path.ofText f.1)).name.toList := by
  intro f hf
  rw [files_synthesise] at hf
  rcases List.mem_cons.mp hf with rfl | hf
  · obtain ⟨hslash, hlong⟩ := markerPath_plain hs
    have hsplit : splitOnChar '/' (markerPath settings).toList = [] ++ [(markerPath settings).toList] :=
      splitOnChar_of_not_mem hslash
    rw [name_join hsplit hlong]
    exact fun hm => absurd (isFileChar_markerPath hs hm) (by decide)
  · obtain ⟨e, he, hf⟩ := List.mem_flatMap.mp hf
    obtain ⟨ha, hne, -⟩ := accepted_generated he
    obtain ⟨text, -, hfile⟩ := fragmentFiles_accepted ha hne
    rw [hfile, List.mem_singleton] at hf
    obtain ⟨folders, hsplit⟩ := splitOnChar_path hs ha
    rw [hf, name_join hsplit (fileName_plain hs ha).2]
    exact fun hm => absurd (isFileChar_fileName hs ha hm) (by decide)

/-- A file has a path with a null character exactly if the package of a generated type has one. -/
theorem null_mem_files_iff (hs : AcceptedSettings settings) :
    (∃ f ∈ (synthesise settings (full entities settings) entities).files, '\x00' ∈ f.1.toList) ↔
      settings.language = .python ∧ ∃ e ∈ generatedEntities settings entities, '\x00' ∈ e.outputPackage.toList := by
  rw [files_synthesise]
  constructor
  · rintro ⟨f, hf, hnull⟩
    rcases List.mem_cons.mp hf with rfl | hf
    · exact absurd (isFileChar_markerPath hs hnull) (by decide)
    · obtain ⟨e, he, hf⟩ := List.mem_flatMap.mp hf
      obtain ⟨ha, hne, -⟩ := accepted_generated he
      obtain ⟨text, -, hfile⟩ := fragmentFiles_accepted ha hne
      rw [hfile, List.mem_singleton] at hf
      rw [hf] at hnull
      obtain ⟨hl, hpackage⟩ := (null_mem_path_iff hs ha).mp hnull
      exact ⟨hl, e, he, hpackage⟩
  · rintro ⟨hl, e, he, hpackage⟩
    obtain ⟨ha, hne, -⟩ := accepted_generated he
    obtain ⟨text, -, hfile⟩ := fragmentFiles_accepted ha hne
    refine ⟨(Fragment.path settings e, text), List.mem_cons_of_mem _ (List.mem_flatMap.mpr ⟨e, he, ?_⟩),
      (null_mem_path_iff hs ha).mpr ⟨hl, hpackage⟩⟩
    rw [hfile]
    exact List.mem_singleton_self _

/-! ## What ends a run -/

/-- The run exports fragments, and comes to one whose folders are made of a package with a null character. -/
structure MeetsNull (t : Tree) (options : Options) (entities : List Entity) (settings : Settings) (out : Path) : Prop where
  exports : endsWithValidation options (full entities settings) = false
  made : ((cleaned t (exportOptions options) out).makeDirs out).trouble = none
  language : settings.language = .python
  package : ∃ e ∈ generatedEntities settings entities, '\x00' ∈ e.outputPackage.toList

theorem fault_export_iff (hends : endsWithValidation options (full entities settings) = false) (out : Path) :
    (Export.run t settings (exportOptions options) out
      (synthesise settings (full entities settings) entities).files).2.fault = none ↔
        ¬ MeetsNull t options entities settings out := by
  have hs : AcceptedSettings settings := by
    have habort : abort? options (full entities settings) = none := by
      simpa using (Bool.or_eq_false_iff.mp hends).1
    exact accepted_of_abort? habort
  have hmeets : MeetsNull t options entities settings out ↔
      ((cleaned t (exportOptions options) out).makeDirs out).trouble = none ∧
        ∃ f ∈ (synthesise settings (full entities settings) entities).files, '\x00' ∈ f.1.toList := by
    rw [null_mem_files_iff hs]
    exact ⟨fun h => ⟨h.made, h.language, h.package⟩, fun h => ⟨hends, h.1, h.2.1, h.2.2⟩⟩
  rw [run_fault rfl (null_not_mem_name entities hs out), hmeets]
  split
  case isTrue h => simp [h]
  case isFalse h => simp only [h, not_false_eq_true]

/-- What the stages after the intake end a run on a manifest with. -/
theorem fault?_process (entities : List Entity) (settings : Settings) {r : Run} (hr : r.exported = none) {l : Loading} {mapping : Mapping}
    (hi : r.intake = some (.loaded l)) (hl : l.document = .ok mapping) :
    (process t r entities settings).2.fault? = none ↔
      ∀ out, r.output = some out → ¬ MeetsNull t r.options entities settings out := by
  have hfault : ∀ r' : Run, r'.intake = some (.loaded l) → r'.fault? = (r'.exported.bind (·.fault)).map .ofTrouble := by
    intro r' hi'
    simp only [Run.fault?, hi', hl]
  rw [hfault _ ((process_frame t r entities settings).2.2.1.trans hi), Option.map_eq_none_iff]
  cases hends : endsWithValidation r.options (full entities settings) with
  | true =>
    have hnot : ∀ out, ¬ MeetsNull t r.options entities settings out :=
      fun out hm => Bool.false_ne_true (hm.exports.symm.trans hends)
    simp [process_of_ends t r hends, hr, hnot]
  | false =>
    cases ho : r.output with
    | none => simp [(process_without_output t ho hr entities settings).2]
    | some out =>
      have hx : (process t r entities settings).2.exported = some (Export.run t settings (exportOptions r.options) out
          (synthesise settings (full entities settings) entities).files).2 := by
        unfold endsWithValidation at hends
        unfold process
        simp only [hends, Bool.false_eq_true, if_false, ho]
      rw [hx, Option.bind_some, fault_export_iff hends]
      simp

/-! ## Manifests -/

section

variable {path : Path} {overrides mapping : Mapping} (hd : loadDocument t path = .ok mapping)
include hd

theorem load_content (overrides : Mapping) :
    (load t path overrides).document = .ok mapping ∧
      (load t path overrides).outline = some (Manifest.outline mapping) ∧
        (load t path overrides).content =
          (Manifest.outline mapping).toOption.map fun o => o.read (some path.text) overrides := by
  refine ⟨?_, ?_, ?_⟩ <;> simp [load, hd, Except.toOption]

theorem failure?_ofMapping {e : ContentError} (he : ofMapping mapping (some path.text) overrides = .error e) :
    (load t path overrides).failure? = some e.message := by
  obtain ⟨hdocument, houtline, hcontent⟩ := load_content hd overrides
  unfold Loading.failure?
  rw [hdocument, houtline, hcontent]
  unfold ofMapping at he
  cases ho : Manifest.outline mapping with
  | error e' =>
    rw [ho] at he
    cases he
    rfl
  | ok o =>
    rw [ho] at he
    replace he : o.read (some path.text) overrides = .error e := he
    simp [Except.toOption, he]

theorem collected?_ofMapping :
    collected? t (.manifest path overrides) =
      (ofMapping mapping (some path.text) overrides).toOption.map fun (m, settings) => (m.entities, settings) := by
  unfold collected?
  simp only [(load_content hd overrides).2.2]
  unfold ofMapping
  cases ho : Manifest.outline mapping with
  | error e => rfl
  | ok o =>
    show _ = (o.read (some path.text) overrides).toOption.map _
    cases hr : o.read (some path.text) overrides <;> simp [Except.toOption, hr]

variable {output place : Option Path} (ho : output.mapM (fun p => t.resolve p) = .ok place)
  (hc : checkClean t options place [path] = .ok none)
include ho hc

/-- A mapping that is no manifest is an input error, and nothing is done. -/
theorem run_of_noManifest {e : ContentError} (he : ofMapping mapping (some path.text) overrides = .error e) :
    let done := run t options (.manifest path overrides) output
    done.2.2 = none ∧ done.1 = t ∧ done.2.1.report.inputErrors = [e.message] := by
  have hw : collected? t (.manifest path overrides) = none := by
    rw [collected?_ofMapping hd, he]
    rfl
  rw [run_of_uncollected ho hc hw]
  refine ⟨?_, rfl, ?_⟩
  · simp [Run.fault?, intakeOf, (load_content hd overrides).1]
  · simp [Run.report, Run.inputErrors, intakeOf, failure?_ofMapping hd he]

/-- A mapping that is one is validated. -/
theorem run_of_manifest {m : Manifest} {settings : Settings}
    (hm : ofMapping mapping (some path.text) overrides = .ok (m, settings)) :
    let done := run t options (.manifest path overrides) output
    done.2.1.work = some (m.entities, settings) ∧ done.2.1.validation = some (full m.entities settings) ∧
      (done.2.2 = none ↔ ∀ out, place = some out → ¬ MeetsNull t options m.entities settings out) := by
  have hw : collected? t (.manifest path overrides) = some (m.entities, settings) := by
    rw [collected?_ofMapping hd, hm]
    rfl
  obtain ⟨r, hr⟩ : ∃ r : Run, r = { options, output := place, intake := some (intakeOf t (.manifest path overrides)) } :=
    ⟨_, rfl⟩
  have hwork := (process_frame t r m.entities settings).2.2.2
  have hvalidated := (process_validated t r m.entities settings).1
  have hfault := fault?_process (t := t) m.entities settings (r := r) (by rw [hr])
    (l := load t path overrides) (by rw [hr]; rfl) (load_content hd overrides).1
  rw [run_of_collected ho hc hw, ← hr]
  rw [show r.output = place by rw [hr], show r.options = options by rw [hr]] at hfault
  dsimp only
  exact ⟨hwork, hvalidated, hfault⟩

end

/-- A manifest with a type in a package with a null character, and an empty output directory. -/
def nullText : String :=
  "\x7b\"entities\": [\x7b\"name\": \"Item\", \"table\": \"items\", \"fields\": [\"title\"], \"package\": \"a\\u0000b\"\x7d]\x7d"

def nullMapping : Mapping :=
  [(.text "entities", .list [.map [(.text "name", .text "Item"), (.text "table", .text "items"),
    (.text "fields", .list [.text "title"]), (.text "package", .text "a\x00b")]])]

def nullItem : Entity := ⟨"Item", some "items", ["title"], [], 1, some "/m.json", none, none, some "a\x00b"⟩

def nullManifest : Tree := ⟨[], [(["m.json"], .file (Utf8.encode nullText)), (["out"], .dir)]⟩

theorem loadDocument_null : loadDocument nullManifest ⟨"/", ["m.json"]⟩ = .ok nullMapping := by
  have hroot : IsDirectory nullManifest [] := ⟨nofun, fun n => by rw [List.take_nil]; rfl⟩
  have hn : IsEntryName "m.json" := by decide
  have hg : nullManifest.get? ([] ++ ["m.json"]) = some (.file (Utf8.encode nullText)) := by
    simp [nullManifest, Tree.get?, Data.Entries.get?]
  have he := entry?_file hroot hn hg
  have hr := readText_file hroot hn hg (by cbv) (by decide)
  simp only [List.nil_append] at he hr
  have hj : Manifest.ofJson "/m.json" nullText = .ok nullMapping := by cbv
  have hs : Manifest.suffixOf ⟨"/", ["m.json"]⟩ = ".json" := by decide
  simp only [loadDocument, Manifest.checkFile, he, Manifest.readDocument, hs, hr, bind, Except.bind]
  rw [if_neg (by decide), if_pos (by decide)]
  exact hj

theorem isDirectory_nullManifest : IsDirectory nullManifest ["out"] := by
  refine ⟨fun n hn => ?_, fun n => ?_⟩
  · obtain rfl := List.mem_singleton.mp hn
    decide
  · rcases n with _ | n
    · rfl
    · simp [nullManifest, Tree.get?, Data.Entries.get?]

end CrudQueries.Generation
