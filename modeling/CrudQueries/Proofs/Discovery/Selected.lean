/-
  CrudQueries.Proofs.Discovery.Selected — which files below a directory are selected.

  The names that lead from the root of a search to a source end in `.py`, pass no directory that is skipped and,
  unless hidden ones are asked for, nothing hidden, and match no exclusion pattern (`Passes`). Every entry to which
  such names lead is selected, once, in the order of the names and whatever the order in which the tree lists its
  entries (`sourceFiles_lists`).

  What the entry is is not asked. So the selection is that of the files alone exactly if no directory below the root has
  the name of a source: one that has is selected among them (`directory_selected`).
-/

import CrudQueries.Discovery.Search
import CrudQueries.Proofs.Files.Cleared

namespace CrudQueries.Discovery

open CrudQueries.Files (Location Tree)

-- Lists are compared as the core library does, whatever else is imported.
attribute [local instance (high)] List.instLE List.instLT

variable {t u : Tree} {settings : Settings} {names place : Location} {root : String}

/-! ## Names of sources -/

/-- The names lead from the root of a search to a source that is looked at. -/
structure Passes (settings : Settings) (names : Location) : Prop where
  named : ∃ dirs stem, names = dirs ++ [stem ++ ".py"]
  entered : ∀ dir ∈ names.dropLast, dir ∉ skippedDirectories
  visible : settings.includeHidden = true ∨ ∀ name ∈ names, name.toList.head? ≠ some '.'
  kept : ∀ pattern ∈ settings.exclude, Text.Glob.isMatch pattern ("/".intercalate names) = false

theorem isSourceName_iff {name : String} : isSourceName name = true ↔ ∃ stem, name = stem ++ ".py" := by
  rw [isSourceName, List.isSuffixOf_iff_suffix]
  constructor
  · rintro ⟨cs, hcs⟩
    exact ⟨String.ofList cs, String.toList_inj.mp (by rw [String.toList_append, String.toList_ofList, hcs])⟩
  · rintro ⟨stem, rfl⟩
    rw [String.toList_append]
    exact List.suffix_append _ _

theorem isSourceName_last_iff :
    isSourceName (names.getLastD "") = true ↔ ∃ dirs stem, names = dirs ++ [stem ++ ".py"] := by
  rcases List.eq_nil_or_concat names with rfl | ⟨dirs, name, rfl⟩
  · exact iff_of_false (by decide) (by simp)
  · rw [List.concat_eq_append, List.getLastD_concat, isSourceName_iff]
    constructor
    · rintro ⟨stem, rfl⟩
      exact ⟨dirs, stem, rfl⟩
    · rintro ⟨dirs', stem, heq⟩
      exact ⟨stem, (List.append_inj_right' heq rfl |> List.cons.inj).1⟩

theorem isSource_iff : isSource settings names = true ↔ Passes settings names := by
  have hentered : (!names.dropLast.any skippedDirectories.contains) = true ↔
      ∀ dir ∈ names.dropLast, dir ∉ skippedDirectories := by
    simp
  have hvisible : (settings.includeHidden || !names.any isHidden) = true ↔
      settings.includeHidden = true ∨ ∀ name ∈ names, name.toList.head? ≠ some '.' := by
    simp [isHidden]
  have hkept : (!isExcluded settings names) = true ↔
      ∀ pattern ∈ settings.exclude, Text.Glob.isMatch pattern ("/".intercalate names) = false := by
    simp [isExcluded]
  rw [isSource, Bool.and_eq_true, Bool.and_eq_true, Bool.and_eq_true, isSourceName_last_iff, hentered, hvisible, hkept]
  exact ⟨fun ⟨⟨⟨hn, he⟩, hv⟩, hk⟩ => ⟨hn, he, hv, hk⟩, fun h => ⟨⟨⟨h.named, h.entered⟩, h.visible⟩, h.kept⟩⟩

/-! ## Selections -/

/-- All names with a property, each once and in ascending order. -/
structure Lists (P : Location → Prop) (found : List Location) : Prop where
  ascending : found.Pairwise (· < ·)
  mem : ∀ names, names ∈ found ↔ P names

theorem Lists.congr {P Q : Location → Prop} {found : List Location} (h : Lists P found) (hpq : ∀ names, P names ↔ Q names) :
    Lists Q found :=
  ⟨h.ascending, fun names => (h.mem names).trans (hpq names)⟩

theorem Lists.nodup {P : Location → Prop} {found : List Location} (h : Lists P found) : found.Nodup := by
  refine h.ascending.imp ?_
  rintro names _ hlt rfl
  exact List.lt_irrefl names hlt

/-- A property leaves no choice of the list. -/
theorem Lists.unique {P : Location → Prop} {found others : List Location} (h : Lists P found) (h' : Lists P others) :
    found = others := by
  have hperm : found.Perm others :=
    (List.perm_ext_iff_of_nodup h.nodup h'.nodup).mpr fun names => (h.mem names).trans (h'.mem names).symm
  exact hperm.eq_of_pairwise (fun p q _ _ hpq hqp => absurd hqp (List.lt_asymm hpq)) h.ascending h'.ascending

/-- The names of the sources below a directory. -/
def sourceNames (t : Tree) (settings : Settings) (place : Location) : List Location :=
  ((t.below place).map (·.1)).filter (isSource settings)

theorem sourceFiles_eq (hw : t.WellFormed) (hroot : root ≠ "") (hdir : t.get? place = some .dir) :
    sourceFiles t settings ⟨root, place⟩ = (sourceNames t settings place).map fun names => ⟨root, place ++ names⟩ := by
  unfold sourceFiles
  rw [hw.entry?_there hroot hdir (by simp)]
  rfl

theorem sourceNames_lists (hd : t.Distinct) :
    Lists (fun names => Passes settings names ∧ t.get? (place ++ names) ≠ none) (sourceNames t settings place) where
  ascending := by
    refine List.Pairwise.filter _ ?_
    have hle : ((t.below place).map (·.1)).Pairwise (· ≤ ·) := List.pairwise_map.mpr (Tree.pairwise_below t place)
    exact (hle.and (hd.nodup_below place)).imp fun ⟨hle, hne⟩ =>
      List.not_le.mp fun hge => hne (List.le_antisymm hle hge)
  mem names := by
    rw [sourceNames, List.mem_filter, isSource_iff, Tree.mem_below_iff, and_comm, and_congr_right_iff]
    intro hpass
    obtain ⟨dirs, stem, rfl⟩ := hpass.named
    simp

/-- The tree may list its entries in any order. -/
theorem get?_of_perm (hd : t.Distinct) (hp : u.entries.Perm t.entries) (q : Location) : u.get? q = t.get? q := by
  by_cases hq : q = []
  · rw [hq]
    rfl
  · rw [Tree.get?_of_ne_nil u hq, Tree.get?_of_ne_nil t hq]
    exact Data.Entries.get?_perm hp.symm hd q

theorem sourceNames_of_perm (hd : t.Distinct) (hp : u.entries.Perm t.entries) :
    sourceNames u settings place = sourceNames t settings place := by
  have hu : u.Distinct := (hp.map _).nodup_iff.mpr hd
  refine (sourceNames_lists hu).unique ((sourceNames_lists hd).congr fun names => ?_)
  rw [get?_of_perm hd hp]

/-- Below a directory of a tree without links exactly those entries are selected to which names of sources lead, each
  once, in ascending order of the names, and in whatever order the tree lists its entries. They are files, and so the
  files that such names lead to, exactly if no directory below it has the name of a source. -/
theorem sourceFiles_lists (ht : t.Plain) (hd : t.Distinct) (hroot : root ≠ "") (hdir : t.get? place = some .dir)
    (settings : Settings) :
    ∃ found, sourceFiles t settings ⟨root, place⟩ = found.map (fun names => ⟨root, place ++ names⟩) ∧
      Lists (fun names => Passes settings names ∧ t.get? (place ++ names) ≠ none) found ∧
      (Lists (fun names => Passes settings names ∧ ∃ bytes, t.get? (place ++ names) = some (.file bytes)) found ↔
        ∀ names, Passes settings names → t.get? (place ++ names) ≠ some .dir) ∧
      ∀ u : Tree, u.Plain → u.entries.Perm t.entries →
        sourceFiles u settings ⟨root, place⟩ = sourceFiles t settings ⟨root, place⟩ := by
  have hlists : Lists _ (sourceNames t settings place) := sourceNames_lists hd
  refine ⟨sourceNames t settings place, sourceFiles_eq ht.toWellFormed hroot hdir, hlists,
    ⟨fun hfiles names hpass hname => ?_, fun hno => ?_⟩, fun u hu hp => ?_⟩
  · obtain ⟨-, bytes, hfile⟩ := (hfiles.mem names).mp ((hlists.mem names).mpr ⟨hpass, by simp [hname]⟩)
    rw [hname] at hfile
    cases hfile
  · refine hlists.congr fun names => and_congr_right fun hpass => ?_
    cases hg : t.get? (place ++ names) with
    | none => simp
    | some e =>
      cases e with
      | file bytes => simp
      | dir => exact absurd hg (hno names hpass)
      | link target => exact absurd hg (ht.noLinks _ target)
  · have hudir : u.get? place = some .dir := (get?_of_perm hd hp place).trans hdir
    rw [sourceFiles_eq hu.toWellFormed hroot hudir, sourceFiles_eq ht.toWellFormed hroot hdir, sourceNames_of_perm hd hp]

/-- A directory with the name of a source, beside a source. -/
def sourceTree : Tree := { entries := [(["src"], .dir), (["src", "pkg.py"], .dir), (["src", "m.py"], .file .empty)] }

theorem sourceFiles_lists_tree :
    sourceTree.Plain ∧ sourceTree.Distinct ∧ "/" ≠ "" ∧ sourceTree.get? ["src"] = some .dir ∧
      ∃ found, sourceFiles sourceTree {} ⟨"/", ["src"]⟩ = found.map (fun names => ⟨"/", ["src"] ++ names⟩) ∧
        Lists (fun names => Passes {} names ∧ sourceTree.get? (["src"] ++ names) ≠ none) found ∧
        (Lists (fun names => Passes {} names ∧ ∃ bytes, sourceTree.get? (["src"] ++ names) = some (.file bytes)) found ↔
          ∀ names, Passes {} names → sourceTree.get? (["src"] ++ names) ≠ some .dir) ∧
        ∀ u : Tree, u.Plain → u.entries.Perm sourceTree.entries →
          sourceFiles u {} ⟨"/", ["src"]⟩ = sourceFiles sourceTree {} ⟨"/", ["src"]⟩ := by
  have ht : sourceTree.Plain := by decide
  have hd : sourceTree.Distinct := by decide
  have hdir : sourceTree.get? ["src"] = some .dir := by decide
  exact ⟨ht, hd, by decide, hdir, sourceFiles_lists ht hd (by decide) hdir {}⟩

/-- A directory is selected among the files, and a search that looks at it has an error. -/
theorem directory_selected :
    sourceTree.Plain ∧ sourceTree.Distinct ∧ sourceTree.get? ["src"] = some .dir ∧
      sourceTree.get? ["src", "pkg.py"] = some .dir ∧
      ⟨"/", ["src", "pkg.py"]⟩ ∈ sourceFiles sourceTree {} ⟨"/", ["src"]⟩ ∧
      (visit sourceTree {} ⟨"/", ["src"]⟩ ⟨"/", ["src", "pkg.py"]⟩).error? =
        some "/src/pkg.py: [Errno 21] Is a directory: '/src/pkg.py'" ∧
      ¬ ∃ found, sourceFiles sourceTree {} ⟨"/", ["src"]⟩ = found.map (fun names => ⟨"/", ["src"] ++ names⟩) ∧
        Lists (fun names => Passes {} names ∧ ∃ bytes, sourceTree.get? (["src"] ++ names) = some (.file bytes)) found := by
  have ht : sourceTree.Plain := by decide
  have hd : sourceTree.Distinct := by decide
  have hdir : sourceTree.get? ["src"] = some .dir := by decide
  have hpkg : sourceTree.get? ["src", "pkg.py"] = some .dir := by decide
  have hmem : ⟨"/", ["src", "pkg.py"]⟩ ∈ sourceFiles sourceTree {} ⟨"/", ["src"]⟩ := by
    rw [sourceFiles_eq ht.toWellFormed (by decide) hdir]
    refine List.mem_map.mpr ⟨["pkg.py"], ((sourceNames_lists hd).mem _).mpr ⟨isSource_iff.mp (by decide), ?_⟩, rfl⟩
    simp [hpkg]
  have hread : sourceTree.read ⟨"/", ["src", "pkg.py"]⟩ = .error (.onPath .isDirectory "/src/pkg.py") := by
    have hfind : sourceTree.find true ⟨"/", ["src", "pkg.py"]⟩ = .ok (.found ["src", "pkg.py"] .dir) :=
      ht.toWellFormed.find_dir (by decide) hpkg
    unfold Tree.read
    rw [hfind]
    rfl
  have herror : (visit sourceTree {} ⟨"/", ["src"]⟩ ⟨"/", ["src", "pkg.py"]⟩).error? =
      some "/src/pkg.py: [Errno 21] Is a directory: '/src/pkg.py'" := by
    unfold visit Tree.readText
    rw [hread]
    decide +kernel
  refine ⟨ht, hd, hdir, hpkg, hmem, herror, ?_⟩
  rintro ⟨found, hfound, hfiles⟩
  obtain ⟨names, hnames, hpath⟩ := List.mem_map.mp (hfound ▸ hmem)
  obtain rfl : names = ["pkg.py"] := by simpa using hpath
  obtain ⟨-, bytes, hfile⟩ := (hfiles.mem _).mp hnames
  rw [List.singleton_append, hpkg] at hfile
  cases hfile

end CrudQueries.Discovery
