/-
  CrudQueries.Proofs.Generation.Distinct — no file of a run takes the place of another.

  The files of a run are kept by path, so a second file with the path of a first would replace it. The
  types that are not passed over (`generatedEntities`) have paths that differ from each other and from the
  marker's even without regard to case, since each path is looked at against all those before it
  (`pairwise_generated`); so the files are the marker declaration and one fragment for each type, in
  order (`files_synthesise`). Nor is one path a folder of another, or the inventory's: folders are
  cut from packages at their dots and have none, while the name of every file ends in one of two suffixes
  (`IsFilePath`).
-/

import CrudQueries.Proofs.Generation.Containment
import CrudQueries.Proofs.Generation.Stages
import CrudQueries.Proofs.Validation.Flaw

namespace CrudQueries.Generation

open CrudQueries.Data
open CrudQueries.Files (Path Tree partsOf)
open CrudQueries.Fragment (fileName fileOf markerPath markerText packageFolders render)
open CrudQueries.Text
open CrudQueries.Validation (AcceptedEntity AcceptedSettings accepted_of_not_condemned accepted_settings full
  hasGlobalErrors_full not_condemned pathKey)

variable {settings : Settings} {entities : List Entity} {e : Entity}

/-! ## The types that are generated -/

/-- The types with fields that are not passed over. -/
def generatedEntities (settings : Settings) (entities : List Entity) : List Entity :=
  (entities.zipIdx.filter fun (e, i) => !(full entities settings).condemn i && !e.fields.isEmpty).map (·.1)

theorem mem_generated (h : e ∈ generatedEntities settings entities) :
    ∃ i, entities[i]? = some e ∧ (full entities settings).condemn i = false ∧ e.fields ≠ [] := by
  simp only [generatedEntities, List.mem_map, List.mem_filter, Prod.exists, List.mem_zipIdx_iff_getElem?,
    Bool.and_eq_true, Bool.not_eq_true', List.isEmpty_eq_false_iff] at h
  obtain ⟨d, i, ⟨hi, hc, hf⟩, rfl⟩ := h
  exact ⟨i, hi, hc, hf⟩

theorem accepted_generated (h : e ∈ generatedEntities settings entities) :
    AcceptedEntity settings e ∧ e.fields ≠ [] ∧ pathKey (Fragment.path settings e) ≠ pathKey (markerPath settings) := by
  obtain ⟨i, hi, hc, hf⟩ := mem_generated h
  obtain ⟨ha, hp⟩ := accepted_of_not_condemned hc hi
  exact ⟨ha, hf, fun heq => hp (.byMarker hf heq)⟩

/-- Without errors the types with fields are those that are generated. -/
theorem generatedEntities_of_valid (h : (full entities settings).hasErrors = false) :
    generatedEntities settings entities = entities.filter (!·.fields.isEmpty) := by
  unfold generatedEntities
  simp only [not_condemned h, Bool.not_false, Bool.true_and]
  calc (entities.zipIdx.filter fun x => !x.1.fields.isEmpty).map (·.1)
      = (entities.zipIdx.map (·.1)).filter (!·.fields.isEmpty) := by rw [List.filter_map]; rfl
    _ = entities.filter (!·.fields.isEmpty) := by rw [List.zipIdx_map_fst]

/-- No two of them have one path, whatever the case of its letters. -/
theorem pairwise_generated (settings : Settings) (entities : List Entity) :
    (generatedEntities settings entities).Pairwise fun d e =>
      pathKey (Fragment.path settings d) ≠ pathKey (Fragment.path settings e) := by
  rw [generatedEntities, List.pairwise_map, List.pairwise_filter, List.pairwise_iff_getElem]
  intro i j hi hj hlt hkept hkept' heq
  simp only [List.length_zipIdx] at hi hj
  simp only [List.getElem_zipIdx, Nat.zero_add, Bool.and_eq_true, Bool.not_eq_true',
    List.isEmpty_eq_false_iff] at hkept hkept' heq
  have hmem : entities[i] ∈ entities.take j := List.mem_take_iff_getElem.mpr ⟨i, by omega, rfl⟩
  exact (accepted_of_not_condemned hkept'.1 (List.getElem?_eq_getElem hj)).2
    (.byType entities[i] hkept'.2 hmem hkept.2 heq.symm)

/-! ## The files -/

/-- The fragment of an accepted type with fields. -/
theorem fragmentFiles_accepted (ha : AcceptedEntity settings e) (hf : e.fields ≠ []) :
    ∃ text, render settings e = .ok (some text) ∧ fragmentFiles settings e = [(Fragment.path settings e, text)] := by
  obtain ⟨text, hr⟩ := render_accepted ha hf
  exact ⟨text, hr, by simp [fragmentFiles, fileOf, hr, Except.map, Except.toOption]⟩

/-- The SQL of a type whose table is known. -/
def sql? (e : Entity) : Option Query.Artifacts :=
  (Fragment.knownTable? e).bind fun table => (Query.Artifacts.build e.typeName e.fields table).toOption

/-- What becomes of the type at a position: its fragment, if it is one of those with fields that are not passed over. -/
theorem fateOf_eq (settings : Settings) {i : Nat} (hi : entities[i]? = some e) :
    if !(full entities settings).condemn i && !e.fields.isEmpty then
      fateOf settings (full entities settings) i e = .rendered (fragmentFiles settings e) (sql? e)
    else fateOf settings (full entities settings) i e = .invalid ∨
      fateOf settings (full entities settings) i e = .noFields := by
  cases hc : (full entities settings).condemn i with
  | true => simp [fateOf, hc]
  | false =>
    cases hf : e.fields.isEmpty with
    | true => simp [fateOf, hc, hf]
    | false =>
      simp only [fateOf, hc, hf, fileOf_accepted (accepted_of_not_condemned hc hi).1]
      rfl

theorem flatMap_filter {α β : Type} (p : α → Bool) (f : α → List β) (l : List α) :
    (l.filter p).flatMap f = l.flatMap fun x => if p x then f x else [] := by
  induction l with
  | nil => rfl
  | cons x l ih =>
    rw [List.flatMap_cons, ← ih]
    cases hp : p x <;> simp [hp]

/-- What is collected from the fates of all types comes from those that are generated, if nothing comes from the others. -/
theorem flatMap_generated {α : Type} (g : Entity × Fate → List α) (hinvalid : ∀ e, g (e, .invalid) = [])
    (hnoFields : ∀ e, g (e, .noFields) = []) :
    (synthesise settings (full entities settings) entities).fates.flatMap g =
      (generatedEntities settings entities).flatMap fun e => g (e, .rendered (fragmentFiles settings e) (sql? e)) := by
  rw [generatedEntities, List.flatMap_map, flatMap_filter, synthesise, List.flatMap_map]
  refine List.flatMap_congr ?_
  rintro ⟨e, i⟩ hmem
  have hfate := fateOf_eq settings (List.mem_zipIdx_iff_getElem?.mp hmem)
  simp only
  split at hfate
  · rename_i hkept
    rw [if_pos hkept, hfate]
  · rename_i hkept
    rw [if_neg hkept]
    rcases hfate with hfate | hfate <;> rw [hfate]
    · exact hinvalid e
    · exact hnoFields e

theorem generated_synthesise :
    (synthesise settings (full entities settings) entities).generated =
      (generatedEntities settings entities).map (·.typeName) := by
  rw [Synthesis.generated, List.filterMap_eq_flatMap_toList, flatMap_generated _ (fun _ => rfl) (fun _ => rfl)]
  exact List.map_eq_flatMap.symm

/-- Each of them has one file, at its path. -/
theorem paths_generated (settings : Settings) (entities : List Entity) :
    ((generatedEntities settings entities).flatMap (fragmentFiles settings)).map (·.1) =
      (generatedEntities settings entities).map (Fragment.path settings) := by
  rw [List.map_flatMap, List.map_eq_flatMap]
  refine List.flatMap_congr fun e he => ?_
  obtain ⟨ha, hf, -⟩ := accepted_generated he
  obtain ⟨text, -, hfile⟩ := fragmentFiles_accepted ha hf
  rw [hfile]
  rfl

/-- The paths of the marker and of the generated types differ, whatever the case of their letters. -/
theorem nodup_keys (settings : Settings) (entities : List Entity) :
    (((markerPath settings, markerText settings) ::
      (generatedEntities settings entities).flatMap (fragmentFiles settings)).map fun f => pathKey f.1).Nodup := by
  have hkeys : ((generatedEntities settings entities).flatMap (fragmentFiles settings)).map (fun f => pathKey f.1) =
      (generatedEntities settings entities).map fun e => pathKey (Fragment.path settings e) := by
    have hpaths := congrArg (List.map pathKey) (paths_generated settings entities)
    rwa [List.map_map, List.map_map] at hpaths
  rw [List.map_cons, hkeys, List.nodup_cons]
  constructor
  · intro hmem
    obtain ⟨e, he, heq⟩ := List.mem_map.mp hmem
    exact (accepted_generated he).2.2 heq
  · exact List.pairwise_map.mpr (pairwise_generated settings entities)

/-- So no file takes the place of another. -/
theorem files_synthesise :
    (synthesise settings (full entities settings) entities).files =
      (markerPath settings, markerText settings) ::
        (generatedEntities settings entities).flatMap (fragmentFiles settings) := by
  have hnodup : (((markerPath settings, markerText settings) ::
      (generatedEntities settings entities).flatMap (fragmentFiles settings)).map (·.1)).Nodup :=
    List.Nodup.of_map pathKey (by rw [List.map_map]; exact nodup_keys _ _)
  calc (synthesise settings (full entities settings) entities).files
      = Entries.putAll [(markerPath settings, markerText settings)]
          ((generatedEntities settings entities).flatMap (fragmentFiles settings)) :=
        congrArg (Entries.putAll _) (flatMap_generated _ (fun _ => rfl) (fun _ => rfl))
    _ = _ := Entries.putAll_of_nodup _ _ hnodup

/-! ## Names of files -/

/-- The last part of the path ends as a file of one of the languages does, and no other part has a dot. -/
def IsFilePath (path : String) : Prop :=
  ∃ folders name, splitOnChar '/' path.toList = folders ++ [name] ∧ (∀ folder ∈ folders, '.' ∉ folder) ∧
    (".py".toList <:+ name ∨ ".g.cs".toList <:+ name)

theorem isFilePath_of_not_mem {path : String} (hs : '/' ∉ path.toList)
    (h : ".py".toList <:+ path.toList ∨ ".g.cs".toList <:+ path.toList) : IsFilePath path :=
  ⟨[], path.toList, by rw [splitOnChar_of_not_mem hs]; rfl, by simp, h⟩

theorem isFilePath_markerPath (h : AcceptedSettings settings) : IsFilePath (markerPath settings) := by
  refine isFilePath_of_not_mem (markerPath_plain h).1 ?_
  rw [markerPath]
  split
  · exact .inr (by rw [String.toList_append]; exact List.suffix_append _ _)
  · exact .inl (by rw [String.toList_append]; exact List.suffix_append _ _)

theorem fileName_suffix (settings : Settings) (e : Entity) :
    ".py".toList <:+ (fileName settings e).toList ∨ ".g.cs".toList <:+ (fileName settings e).toList := by
  rw [fileName]
  split
  · exact .inr (by rw [String.toList_append]; exact List.suffix_append _ _)
  · exact .inl (by rw [String.toList_append]; exact List.suffix_append _ _)

theorem isFilePath_path (hs : AcceptedSettings settings) (he : AcceptedEntity settings e) :
    IsFilePath (Fragment.path settings e) := by
  have hslash := (fileName_plain hs he).1
  have hsuffix := fileName_suffix settings e
  rw [Fragment.path]
  split
  · exact isFilePath_of_not_mem hslash hsuffix
  · refine ⟨((packageFolders e.outputPackage).map String.toList).flatMap (splitOnChar '/'),
      (fileName settings e).toList, ?_, fun folder hmem hdot => ?_, hsuffix⟩
    · rw [String.toList_intercalate, show "/".toList = ['/'] by decide, splitOnChar_intercalate _ (by simp),
        List.map_append, List.flatMap_append]
      simp [splitOnChar_of_not_mem hslash]
    · obtain ⟨part, hpart, hfolder⟩ := List.mem_flatMap.mp hmem
      obtain ⟨text, htext, rfl⟩ := List.mem_map.mp hpart
      rw [packageFolders] at htext
      split at htext
      · cases htext
      · obtain ⟨chars, hchars, rfl⟩ := List.mem_map.mp htext
        rw [String.toList_ofList] at hfolder
        exact (mem_splitOnChar hchars).1 ((mem_splitOnChar hfolder).2 _ hdot)

theorem dot_mem_of_suffix {name : List Char} (h : ".py".toList <:+ name ∨ ".g.cs".toList <:+ name) : '.' ∈ name :=
  h.elim (fun h => h.subset (by decide)) (fun h => h.subset (by decide))

/-- What only the last of each list has stands in no list before another's end. -/
theorem snoc_append_ne {α : Type} {P : α → Prop} {folders others rest : List α} {name other : α} (hname : P name)
    (hothers : ∀ x ∈ others, ¬ P x) (hrest : rest ≠ []) : folders ++ [name] ++ rest ≠ others ++ [other] := by
  intro h
  obtain ⟨more, last, rfl⟩ := (List.eq_nil_or_concat rest).resolve_left hrest
  rw [List.concat_eq_append, ← List.append_assoc] at h
  refine hothers name ?_ hname
  rw [← (List.append_inj' h rfl).1]
  simp

/-- A path does not lead, part by part, to another. -/
theorem IsFilePath.not_leading {p q : String} (hp : IsFilePath p) (hq : IsFilePath q) (hne : p ≠ q) :
    ¬ splitOnChar '/' p.toList <+: splitOnChar '/' q.toList := by
  obtain ⟨folders, name, hsplit, -, hname⟩ := hp
  obtain ⟨others, other, hsplit', hothers, -⟩ := hq
  rintro ⟨rest, hrest⟩
  by_cases hnil : rest = []
  · rw [hnil, List.append_nil] at hrest
    exact hne (String.toList_inj.mp (splitOnChar_inj hrest))
  · rw [hsplit, hsplit'] at hrest
    exact snoc_append_ne (P := ('.' ∈ ·)) (dot_mem_of_suffix hname) hothers hnil hrest

theorem IsFilePath.partsOf_eq {p : String} (hp : IsFilePath p) :
    ∃ folders name, partsOf p = folders ++ [name] ∧ (∀ folder ∈ folders, '.' ∉ folder.toList) ∧
      (".py".toList <:+ name.toList ∨ ".g.cs".toList <:+ name.toList) := by
  obtain ⟨folders, name, hsplit, hfolders, hname⟩ := hp
  have hne : name ≠ [] ∧ name ≠ ['.'] := by
    constructor <;> rintro rfl <;> revert hname <;> decide
  refine ⟨(folders.filter fun part => part != [] && part != ['.']).map String.ofList, String.ofList name, ?_,
    fun folder hmem => ?_, (String.toList_ofList (l := name)).symm ▸ hname⟩
  · rw [partsOf, hsplit, List.filter_append, List.filter_cons_of_pos (by simpa using hne), List.map_append]
    rfl
  · obtain ⟨part, hpart, rfl⟩ := List.mem_map.mp hmem
    rw [String.toList_ofList]
    exact hfolders part (List.mem_filter.mp hpart).1

/-- Nor does the file of one lie below that of another, as paths are read. -/
theorem IsFilePath.not_below {p q : String} (hp : IsFilePath p) (hq : IsFilePath q) {rest : List String}
    (hrest : rest ≠ []) : partsOf p ++ rest ≠ partsOf q := by
  obtain ⟨folders, name, hparts, -, hname⟩ := hp.partsOf_eq
  obtain ⟨others, other, hparts', hothers, -⟩ := hq.partsOf_eq
  rw [hparts, hparts']
  exact snoc_append_ne (P := ('.' ∈ ·.toList)) (dot_mem_of_suffix hname) hothers hrest

/-- It is not the inventory's. -/
theorem IsFilePath.ne_inventory {p : String} (hp : IsFilePath p) : p ≠ Export.Inventory.fileName := by
  rintro rfl
  obtain ⟨folders, name, hsplit, -, hname⟩ := hp
  rw [splitOnChar_of_not_mem (by decide)] at hsplit
  have hfile : Export.Inventory.fileName.toList = name := by
    rw [← List.nil_append [_]] at hsplit
    exact List.singleton_inj.mp (List.append_inj' hsplit rfl).2
  rw [← hfile] at hname
  revert hname
  decide

/-! ## The files of a run -/

/-- Errors of the settings stop every run. -/
theorem accepted_of_abort? {options : Options} (h : abort? options (full entities settings) = none) :
    AcceptedSettings settings := by
  refine accepted_settings (Bool.eq_false_iff.mpr fun herr => ?_)
  have hglobal : (full entities settings).hasGlobalErrors = true := hasGlobalErrors_full.mpr herr
  have hany : (full entities settings).hasErrors = true := by
    simp only [full, Validation.hasErrors_append, herr, Bool.true_or]
  simp [abort?, hglobal, hany] at h

theorem isFilePath_files (entities : List Entity) (hs : AcceptedSettings settings) :
    ∀ f ∈ (synthesise settings (full entities settings) entities).files, IsFilePath f.1 := by
  intro f hf
  rw [files_synthesise] at hf
  rcases List.mem_cons.mp hf with rfl | hf
  · exact isFilePath_markerPath hs
  · obtain ⟨e, he, hf⟩ := List.mem_flatMap.mp hf
    obtain ⟨ha, hne, -⟩ := accepted_generated he
    obtain ⟨text, -, hfile⟩ := fragmentFiles_accepted ha hne
    rw [hfile, List.mem_singleton] at hf
    rw [hf]
    exact isFilePath_path hs ha

theorem length_files :
    (synthesise settings (full entities settings) entities).files.length =
      1 + (synthesise settings (full entities settings) entities).generated.length := by
  have hone := congrArg List.length (paths_generated settings entities)
  rw [List.length_map, List.length_map] at hone
  rw [files_synthesise, generated_synthesise, List.length_cons, hone, List.length_map, Nat.add_comm]

theorem get?_files {path text : String}
    (h : (path, text) ∈ (synthesise settings (full entities settings) entities).files) :
    Entries.get? (synthesise settings (full entities settings) entities).files path = some text := by
  refine Entries.get?_of_mem (List.Nodup.of_map pathKey ?_) h
  rw [List.map_map, files_synthesise]
  exact nodup_keys _ _

variable (t : Tree) (options : Options) (input : Input) (output : Option Path)

/-- Where a run comes to its fragments, there is a file for the marker declaration and one for each generated type,
  each with its text; no two paths differ by the case of letters alone, none leads to another, and none is the
  inventory's. -/
theorem files_distinct {s : Synthesis} (hs : (run t options input output).2.1.synthesis = some s) :
    ∃ entities settings,
      let r := (run t options input output).2.1.report
      (run t options input output).2.1.work = some (entities, settings) ∧
        r.generated = (generatedEntities settings entities).map (·.typeName) ∧
        r.files.length = 1 + r.generated.length ∧
        r.files.head? = some (markerPath settings, markerText settings) ∧
        (r.files.map fun f => pathKey f.1).Nodup ∧
        (∀ e ∈ generatedEntities settings entities, ∃ text, render settings e = .ok (some text) ∧
          Entries.get? r.files (Fragment.path settings e) = some text) ∧
        Entries.get? r.files (markerPath settings) = some (markerText settings) ∧
        (∀ f ∈ r.files, ∀ g ∈ r.files, f ≠ g → ¬ splitOnChar '/' f.1.toList <+: splitOnChar '/' g.1.toList) ∧
        (∀ f ∈ r.files, ∀ g ∈ r.files, ∀ rest ≠ [], (Path.ofText f.1).parts ++ rest ≠ (Path.ofText g.1).parts) ∧
        ∀ f ∈ r.files, f.1 ≠ Export.Inventory.fileName := by
  obtain ⟨entities, settings, hw, -, hgo, rfl⟩ := (run_follows t options input output).1.synthesis s hs
  have hgenerated : (run t options input output).2.1.report.generated =
      (synthesise settings (full entities settings) entities).generated := by simp [Run.report, hs]
  have hfiles : (run t options input output).2.1.report.files =
      (synthesise settings (full entities settings) entities).files := by simp [Run.report, hs]
  have hpath := isFilePath_files entities (accepted_of_abort? hgo)
  refine ⟨entities, settings, ?_⟩
  simp only [hgenerated, hfiles]
  refine ⟨hw, generated_synthesise, length_files, ?_, ?_, fun e he => ?_, get?_files ?_, fun f hf g hg hne => ?_,
    fun f hf g hg rest hrest => (hpath f hf).not_below (hpath g hg) hrest, fun f hf => (hpath f hf).ne_inventory⟩
  · rw [files_synthesise]; rfl
  · rw [files_synthesise]; exact nodup_keys _ _
  · obtain ⟨ha, hf, -⟩ := accepted_generated he
    obtain ⟨text, hr, hfile⟩ := fragmentFiles_accepted ha hf
    refine ⟨text, hr, get?_files ?_⟩
    rw [files_synthesise]
    exact List.mem_cons_of_mem _ (List.mem_flatMap.mpr ⟨e, he, by rw [hfile]; exact List.mem_singleton_self _⟩)
  · rw [files_synthesise]; exact List.mem_cons_self
  · refine (hpath f hf).not_leading (hpath g hg) fun heq => hne (Prod.ext heq ?_)
    have htext := (get?_files hf).symm.trans ((congrArg _ heq).trans (get?_files hg))
    exact Option.some.inj htext

/-- Of two types with one path the first is generated and the second passed over. -/
theorem files_distinct_itemRepo :
    let named (name : String) : Entity := ⟨name, "items", ["title"], [], 1, none, none, none, none⟩
    let r := (run ⟨[], []⟩ { strict := false } (.given [named "ItemRepo", named "Item_Repo"] {}) none).2.1
    (∃ s, r.synthesis = some s) ∧ r.report.files.length = 1 + r.report.generated.length := by
  intro named r
  have ha : abort? { strict := false } (full [named "ItemRepo", named "Item_Repo"] {}) = none := by decide +kernel
  have hs : r.synthesis = some (synthesise {} (full [named "ItemRepo", named "Item_Repo"] {})
      [named "ItemRepo", named "Item_Repo"]) := by
    simp only [r, run, Option.mapM_none, checkClean, collect, process, ha]
    rfl
  obtain ⟨-, -, -, -, hlength, -⟩ := files_distinct _ _ _ _ hs
  exact ⟨⟨_, hs⟩, hlength⟩

end CrudQueries.Generation
