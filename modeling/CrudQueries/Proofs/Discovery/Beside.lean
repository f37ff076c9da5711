/-
  CrudQueries.Proofs.Discovery.Beside — whether a fragment lies beside the file that declares its type.

  A search names the directory of a file by the names that lead to it, with dots between them, and the path of a
  fragment is cut from that at its dots (`path_of_dirs`). So a fragment lies beside its file exactly if none of
  these names has a dot itself (`fragment_beside_iff`), and fragments from two directories have one path only if
  the directories come to the same when they are cut (`path_eq_iff`). A directory with a dot in its name passes
  the search all the same, and a hidden one if hidden ones are asked for (`dotted_directory_left`).
-/

import CrudQueries.Discovery.Search
import CrudQueries.Fragment.Path
import CrudQueries.Proofs.Files.Directory
import CrudQueries.Proofs.Files.WellFormed
import CrudQueries.Proofs.Text.Words
import Mathlib.Data.List.Basic

namespace CrudQueries.Discovery

open CrudQueries.Files (Location Path Tree)
open CrudQueries.Files.Tree (IsDirectory IsEntryName)
open CrudQueries.Fragment (fileName packageFolders)
open CrudQueries.Text (splitOnChar)

/-! ## Cutting and joining -/

/-- The parts of names between their dots. -/
def dottedParts (dirs : List String) : List String := (dirs.flatMap fun d => splitOnChar '.' d.toList).map String.ofList

theorem dot_not_mem_dottedParts {dirs : List String} {part : String} (h : part ∈ dottedParts dirs) : '.' ∉ part.toList := by
  obtain ⟨cs, hcs, rfl⟩ := List.mem_map.mp h
  obtain ⟨d, -, hd⟩ := List.mem_flatMap.mp hcs
  rw [String.toList_ofList]
  exact (Text.mem_splitOnChar hd).1

theorem slash_not_mem_dottedParts {dirs : List String} (h : ∀ d ∈ dirs, '/' ∉ d.toList) {part : String}
    (hp : part ∈ dottedParts dirs) : '/' ∉ part.toList := by
  obtain ⟨cs, hcs, rfl⟩ := List.mem_map.mp hp
  obtain ⟨d, hd, hcut⟩ := List.mem_flatMap.mp hcs
  rw [String.toList_ofList]
  exact fun hslash => h d hd ((Text.mem_splitOnChar hcut).2 _ hslash)

theorem dottedParts_eq_self {dirs : List String} (h : ∀ d ∈ dirs, '.' ∉ d.toList) : dottedParts dirs = dirs := by
  have hparts : ∀ part ∈ dirs.map String.toList, '.' ∉ part := by
    intro part hm
    obtain ⟨d, hd, rfl⟩ := List.mem_map.mp hm
    exact h d hd
  rw [dottedParts, ← List.flatMap_map, Text.flatMap_splitOnChar hparts, List.map_map]
  simp [Function.comp_def]

/-- The folders of directories joined with dots are their parts. -/
theorem packageFolders_joined {dirs : List String} (h : ∀ d ∈ dirs, d ≠ "") :
    packageFolders (".".intercalate dirs) = dottedParts dirs := by
  cases dirs with
  | nil => rfl
  | cons d dirs =>
    have hne : (".".intercalate (d :: dirs)).isEmpty = false := by
      obtain ⟨c, hc⟩ : ∃ c, c ∈ d.toList := List.exists_mem_of_ne_nil _ (by simpa using h d List.mem_cons_self)
      have hmem : c ∈ (".".intercalate (d :: dirs)).toList := Text.mem_intercalate_of_mem List.mem_cons_self hc
      rw [← Bool.not_eq_true, String.isEmpty_iff]
      intro hempty
      simp [hempty] at hmem
    rw [packageFolders, if_neg (by simp [hne]), String.toList_intercalate, show ".".toList = ['.'] by decide,
      Text.splitOnChar_intercalate _ (by simp), List.flatMap_map]
    rfl

/-- Joined with slashes, names have the dots that each of them has. -/
theorem count_dot_joined (names : List String) :
    ("/".intercalate names).toList.count '.' = (names.flatMap String.toList).count '.' := by
  induction names with
  | nil => rfl
  | cons n names ih =>
    cases names with
    | nil => simp
    | cons m names =>
      rw [String.intercalate_cons_cons, String.toList_append, String.toList_append, List.flatMap_cons, List.count_append,
        List.count_append, List.count_append, ih, show List.count '.' "/".toList = 0 by decide, Nat.add_zero]

/-- Cutting names at their dots shows in the joined path, if there are any. -/
theorem joined_dottedParts_iff (dirs : List String) (file : String) :
    "/".intercalate (dottedParts dirs ++ [file]) = "/".intercalate (dirs ++ [file]) ↔ ∀ d ∈ dirs, '.' ∉ d.toList := by
  constructor
  · intro h d hd hdot
    have hcount := congrArg (fun s => s.toList.count '.') h
    simp only [count_dot_joined, List.flatMap_append, List.count_append, Nat.add_right_cancel_iff] at hcount
    have hnone : '.' ∉ (dottedParts dirs).flatMap String.toList := by
      rw [List.mem_flatMap]
      rintro ⟨part, hpart, hmem⟩
      exact dot_not_mem_dottedParts hpart hmem
    rw [List.count_eq_zero.mpr hnone, eq_comm, List.count_eq_zero] at hcount
    exact hcount (List.mem_flatMap.mpr ⟨d, hd, hdot⟩)
  · intro h
    rw [dottedParts_eq_self h]

theorem length_splitOnChar (sep : Char) (cs : List Char) : (splitOnChar sep cs).length = cs.count sep + 1 := by
  induction cs with
  | nil => rfl
  | cons c cs ih =>
    rw [splitOnChar]
    by_cases hc : c = sep
    · subst hc
      rw [if_pos (beq_self_eq_true _), List.length_cons, ih, List.count_cons_self]
    · rw [if_neg (by simpa using hc), List.count_cons_of_ne (by simpa using hc), ← ih]
      cases hs : splitOnChar sep cs with
      | nil => exact absurd hs (Text.splitOnChar_ne_nil sep cs)
      | cons part parts => rfl

/-- Folders without slashes and a file name with a given number of them can be told from the joined path. -/
theorem joined_inj {folders others : List String} {file other : String} (hf : ∀ d ∈ folders, '/' ∉ d.toList)
    (ho : ∀ d ∈ others, '/' ∉ d.toList) (hcount : file.toList.count '/' = other.toList.count '/') :
    "/".intercalate (folders ++ [file]) = "/".intercalate (others ++ [other]) ↔ file = other ∧ folders = others := by
  have hslash : "/".toList = ['/'] := by decide
  constructor
  · intro h
    have hparts := congrArg (fun s => splitOnChar '/' s.toList) h
    simp only [Text.splitOnChar_joined hslash hf, Text.splitOnChar_joined hslash ho] at hparts
    obtain ⟨hfolders, hfile⟩ := List.append_inj' hparts (by rw [length_splitOnChar, length_splitOnChar, hcount])
    exact ⟨String.toList_inj.mp (Text.splitOnChar_inj hfile),
      List.map_injective_iff.mpr (fun _ _ h => String.toList_inj.mp h) hfolders⟩
  · rintro ⟨rfl, rfl⟩
    rfl

/-! ## What a search finds -/

variable {t : Tree} {settings : Settings} {p root : Path} {e : Entity}

/-- The classes of a source have its package. -/
theorem package_of_scan {source marker : String} {origin : Origin} {found : List Finding}
    (h : scan source marker origin = .ok found) {f : Finding} (hf : f ∈ found) : f.entity.package = origin.package := by
  unfold scan at h
  split at h
  · cases h
  · split at h
    · cases h
    · obtain rfl := Except.ok.inj h
      obtain ⟨c, -, hc⟩ := List.mem_filterMap.mp hf
      unfold finding? at hc
      split at hc
      · cases hc
      · obtain rfl := Option.some.inj hc
        rfl

theorem package_of_visit {base path : Path} (h : e ∈ (visit t settings base path).entities) :
    e.package = some (packagePath path base) := by
  unfold Visit.entities at h
  cases ho : (visit t settings base path).outcome with
  | error err =>
    rw [ho] at h
    cases h
  | ok found =>
    rw [ho] at h
    obtain ⟨f, hf, rfl⟩ := List.mem_map.mp h
    unfold visit at ho
    cases hread : (t.readText path).mapError VisitError.unreadable with
    | error err => rw [hread] at ho; cases ho
    | ok source =>
      cases hmodule : (modulePath path base).mapError VisitError.nameless with
      | error err => rw [hread, hmodule] at ho; cases ho
      | ok module =>
        rw [hread, hmodule] at ho
        have hscan : (scan source settings.markerName ⟨path.text, some module, some (packagePath path base)⟩).mapError
            VisitError.unscannable = .ok found := ho
        cases hs : scan source settings.markerName ⟨path.text, some module, some (packagePath path base)⟩ with
        | error err => rw [hs] at hscan; cases hscan
        | ok findings =>
          rw [hs] at hscan
          obtain rfl := Except.ok.inj hscan
          exact package_of_scan hs hf

theorem packagePath_below (root : Path) (dirs : List String) (name : String) :
    packagePath (root.join ⟨"", dirs ++ [name]⟩) root = ".".intercalate dirs := by
  simp [packagePath, Path.relativeTo?, Path.join, Path.isAbsolute, Path.parent]

/-- `e` was found in a source of the directory that `dirs` lead to from the root of a search. -/
def FoundIn (visits : List Visit) (root : Path) (dirs : List String) (e : Entity) : Prop :=
  ∃ name, isSourceName name = true ∧ ∃ v ∈ visits, v.path = root.join ⟨"", dirs ++ [name]⟩ ∧ e ∈ v.entities

theorem join_below_inj {root : Path} {names others : List String} :
    root.join ⟨"", names⟩ = root.join ⟨"", others⟩ ↔ names = others := by
  simp [Path.join, Path.isAbsolute]

/-- The sources below a directory have names that entries can have. -/
theorem mem_sourcesBelow (hw : t.WellFormed) {path : Path} (h : path ∈ sourcesBelow t settings root) :
    ∃ dirs name, path = root.join ⟨"", dirs ++ [name]⟩ ∧ isSourceName name = true ∧ ∀ d ∈ dirs, Files.IsName d := by
  obtain ⟨names, hnames, rfl⟩ := List.mem_map.mp h
  obtain ⟨hbelow, hsource⟩ := List.mem_filter.mp hnames
  obtain ⟨⟨below, entry⟩, hentry, rfl⟩ := List.mem_map.mp hbelow
  rw [Tree.below, List.mem_mergeSort] at hentry
  obtain ⟨⟨place, entry⟩, hplace, heq⟩ := List.mem_map.mp hentry
  obtain ⟨hlisted, hinside⟩ := List.mem_filter.mp hplace
  obtain ⟨rfl, rfl⟩ := Prod.mk.inj heq
  simp only [Tree.isBelow, Bool.and_eq_true, List.isPrefixOf_iff_prefix, decide_eq_true_eq] at hinside
  have hne : place.drop root.parts.length ≠ [] := by
    rw [Ne, List.drop_eq_nil_iff]
    omega
  obtain ⟨found, hfound⟩ := Tree.exists_get? hlisted
  refine ⟨(place.drop root.parts.length).dropLast, (place.drop root.parts.length).getLast hne, ?_, ?_, fun d hd => ?_⟩
  · rw [List.dropLast_concat_getLast]
  · simp only [isSource, Bool.and_eq_true, List.getLastD_eq_getLast?, List.getLast?_eq_some_getLast hne] at hsource
    exact hsource.1.1.1
  · exact (hw.names_of_get? hfound d (List.mem_of_mem_drop (List.dropLast_subset _ hd))).1

variable {visits : List Visit} {dirs others : List String} {f : Entity}

/-- What a search of a directory visits are the sources below it. -/
theorem searchPath_directory (hr : t.resolve p = .ok root) (hd : t.entry? root = .ok (some .dir)) :
    searchPath t settings p = .ok ((sourcesBelow t settings root).map (visit t settings root)) := by
  have hsources : sourceFiles t settings root = sourcesBelow t settings root := by
    unfold sourceFiles
    rw [hd]
  unfold searchPath
  rw [hr]
  show ((t.entry? root).mapError Stop.trouble >>= _) = _
  rw [hd, ← hsources]
  rfl

/-- The folders of a fragment are the parts of the names that lead to its source. -/
theorem path_of_dirs (hl : settings.language = .python) (hw : t.WellFormed)
    (h : FoundIn ((sourcesBelow t settings root).map (visit t settings root)) root dirs e) :
    (∀ d ∈ dirs, Files.IsName d) ∧
      Fragment.path settings e = "/".intercalate (dottedParts dirs ++ [fileName settings e]) := by
  obtain ⟨name, -, v, hv, hpath, he⟩ := h
  obtain ⟨path, hsource, rfl⟩ := List.mem_map.mp hv
  obtain ⟨front, last, hbelow, -, hnames⟩ := mem_sourcesBelow hw hsource
  obtain rfl : path = root.join ⟨"", dirs ++ [name]⟩ := hpath
  obtain ⟨rfl, -⟩ := List.append_inj' (join_below_inj.mp hbelow) rfl
  have hpackage := package_of_visit he
  rw [packagePath_below] at hpackage
  refine ⟨hnames, ?_⟩
  have hfolders : packageFolders e.outputPackage = dottedParts dirs := by
    rw [Entity.outputPackage, hpackage]
    exact packageFolders_joined fun d hd => (hnames d hd).notEmpty
  rw [Fragment.path, hl, ← hfolders]

/-- A marked class of a source that is looked at and read is found. -/
theorem foundIn_of_file {base dirs : Location} {name text module : String} {found : List Finding} {f : Finding}
    (h : IsDirectory t (base ++ dirs)) (hn : IsEntryName name)
    (hf : t.get? (base ++ dirs ++ [name]) = some (.file (Text.Utf8.encode text)))
    (htext : Text.Utf8.decode (Text.Utf8.encode text) = .ok text ∧ '\r' ∉ text.toList)
    (hsource : isSource settings (dirs ++ [name]) = true)
    (hmodule : modulePath ⟨"/", base ++ dirs ++ [name]⟩ ⟨"/", base⟩ = .ok module)
    (hscan : scan text settings.markerName ⟨(⟨"/", base ++ dirs ++ [name]⟩ : Path).text, some module,
      some (packagePath ⟨"/", base ++ dirs ++ [name]⟩ ⟨"/", base⟩)⟩ = .ok found)
    (hfound : f ∈ found) :
    FoundIn ((sourcesBelow t settings ⟨"/", base⟩).map (visit t settings ⟨"/", base⟩)) ⟨"/", base⟩ dirs f.entity := by
  have hpath : (⟨"/", base⟩ : Path).join ⟨"", dirs ++ [name]⟩ = ⟨"/", base ++ dirs ++ [name]⟩ := by
    simp [Path.join, Path.isAbsolute]
  have hread := Tree.readText_file h hn hf htext.1 htext.2
  -- It is below the base, and so one of those that are looked at if it is a source.
  have hbelow : (dirs ++ [name]) ∈ (t.below base).map (·.1) := by
    refine List.mem_map.mpr ⟨(dirs ++ [name], .file (Text.Utf8.encode text)), ?_, rfl⟩
    rw [Tree.below, List.mem_mergeSort]
    refine List.mem_map.mpr ⟨_, List.mem_filter.mpr ⟨Tree.mem_of_get? hf (by simp), ?_⟩, by simp⟩
    simp [Tree.isBelow, List.isPrefixOf_iff_prefix]
  have hlooked : (⟨"/", base ++ dirs ++ [name]⟩ : Path) ∈ sourcesBelow t settings ⟨"/", base⟩ :=
    List.mem_map.mpr ⟨_, List.mem_filter.mpr ⟨hbelow, hsource⟩, hpath⟩
  have houtcome : (visit t settings ⟨"/", base⟩ ⟨"/", base ++ dirs ++ [name]⟩).outcome = .ok found := by
    unfold visit
    rw [hread, hmodule]
    show (scan _ _ _).mapError _ = _
    rw [hscan]
    rfl
  refine ⟨name, ?_, _, List.mem_map.mpr ⟨_, hlooked, rfl⟩, hpath.symm, ?_⟩
  · simp only [isSource, Bool.and_eq_true] at hsource
    simpa using hsource.1.1.1
  · unfold Visit.entities
    rw [houtcome]
    exact List.mem_map.mpr ⟨f, hfound, rfl⟩

/-- The file names of two fragments have the same number of slashes, none of them from the names of the types. -/
theorem count_slash_fileName (hl : settings.language = .python) :
    (fileName settings e).toList.count '/' = settings.moduleSuffix.toList.count '/' := by
  have hsnake : (Text.snakeCase e.typeName).toList.count '/' = 0 :=
    List.count_eq_zero.mpr fun hm => absurd (Text.mem_snakeCase hm) (by decide)
  simp only [fileName, hl, String.toList_append, List.count_append, hsnake]
  rw [show List.count '/' ".py".toList = 0 by decide]
  omega

theorem path_eq_iff (hl : settings.language = .python) (hw : t.WellFormed)
    (h : FoundIn ((sourcesBelow t settings root).map (visit t settings root)) root dirs e)
    (h' : FoundIn ((sourcesBelow t settings root).map (visit t settings root)) root others f) :
    Fragment.path settings e = Fragment.path settings f ↔
      fileName settings e = fileName settings f ∧ dottedParts dirs = dottedParts others := by
  obtain ⟨hdirs, hpath⟩ := path_of_dirs hl hw h
  obtain ⟨hothers, hpath'⟩ := path_of_dirs hl hw h'
  rw [hpath, hpath']
  exact joined_inj (fun _ => slash_not_mem_dottedParts fun d hd => (hdirs d hd).noSlash)
    (fun _ => slash_not_mem_dottedParts fun d hd => (hothers d hd).noSlash)
    ((count_slash_fileName hl).trans (count_slash_fileName hl).symm)

/-- In Python a fragment lies beside the source of its type exactly if no directory on the way has a dot in its
  name. Two fragments have one path exactly if their files have one name and their directories have the same parts
  between dots, so without dots they are from one directory. -/
theorem fragment_beside_iff (hw : t.WellFormed) (hl : settings.language = .python) (hr : t.resolve p = .ok root)
    (hd : t.entry? root = .ok (some .dir)) :
    ∃ visits, searchPath t settings p = .ok visits ∧
      (∀ v ∈ visits, ∀ e ∈ v.entities, ∃ dirs, FoundIn visits root dirs e) ∧
      (∀ dirs e, FoundIn visits root dirs e →
        (Fragment.path settings e = "/".intercalate (dirs ++ [fileName settings e]) ↔ ∀ d ∈ dirs, '.' ∉ d.toList)) ∧
      ∀ dirs others e f, FoundIn visits root dirs e → FoundIn visits root others f →
        (Fragment.path settings e = Fragment.path settings f ↔
          fileName settings e = fileName settings f ∧ dottedParts dirs = dottedParts others) ∧
        ((∀ d ∈ dirs ++ others, '.' ∉ d.toList) → Fragment.path settings e = Fragment.path settings f → dirs = others) := by
  refine ⟨_, searchPath_directory hr hd, fun v hv e he => ?_, fun dirs e h => ?_, fun dirs others e f h h' => ?_⟩
  · obtain ⟨path, hsource, rfl⟩ := List.mem_map.mp hv
    obtain ⟨dirs, name, rfl, hname, -⟩ := mem_sourcesBelow hw hsource
    exact ⟨dirs, name, hname, _, hv, rfl, he⟩
  · rw [(path_of_dirs hl hw h).2]
    exact joined_dottedParts_iff dirs _
  · have hiff := path_eq_iff hl hw h h'
    refine ⟨hiff, fun hdots hpath => ?_⟩
    obtain ⟨-, hparts⟩ := hiff.mp hpath
    rwa [dottedParts_eq_self fun d hd => hdots d (List.mem_append_left _ hd),
      dottedParts_eq_self fun d hd => hdots d (List.mem_append_right _ hd)] at hparts

/-- A source with one marked class. -/
def itemSource : String := "@QueryFields(\"id\")\nclass Item:\n    pass\n"

/-- A tree with one source, in a directory of the one that is searched. -/
def itemTree (dir : String) : Tree :=
  ⟨[], [(["src"], .dir), (["src", dir], .dir), (["src", dir, "item.py"], .file (Text.Utf8.encode itemSource))]⟩

/-- The class of that source. -/
def itemEntity (dir : String) : Entity where
  typeName := "Item"
  table := none
  fields := ["id"]
  malformed := []
  markerCount := 1
  sourceFile := some ("/src/" ++ dir ++ "/item.py")
  line := some 2
  modulePath := some (dir ++ ".item")
  package := some dir

theorem isDirectory_itemTree {dir : String} (h : IsEntryName dir) :
    IsDirectory (itemTree dir) ["src"] ∧ IsDirectory (itemTree dir) (["src"] ++ [dir]) := by
  have hsrc : IsEntryName "src" := by decide
  refine ⟨⟨by simpa using hsrc, ?_⟩, ⟨by simpa using ⟨hsrc, h⟩, ?_⟩⟩
  · rintro (_ | n) <;> simp [itemTree, Tree.get?, Data.Entries.get?]
  · rintro (_ | _ | n) <;> simp [itemTree, Tree.get?, Data.Entries.get?]

/-- The class is found where no rule of the search passes over the directory. -/
theorem foundIn_itemTree {dir : String} (h : IsEntryName dir) (hsource : isSource {} [dir, "item.py"] = true)
    (hmodule : modulePath ⟨"/", ["src", dir, "item.py"]⟩ ⟨"/", ["src"]⟩ = .ok (dir ++ ".item"))
    (hscan : scan itemSource "QueryFields" ⟨(⟨"/", ["src", dir, "item.py"]⟩ : Path).text, some (dir ++ ".item"),
      some (packagePath ⟨"/", ["src", dir, "item.py"]⟩ ⟨"/", ["src"]⟩)⟩ = .ok [⟨itemEntity dir, none⟩]) :
    ∃ visits, searchPath (itemTree dir) {} ⟨"/", ["src"]⟩ = .ok visits ∧
      FoundIn visits ⟨"/", ["src"]⟩ [dir] (itemEntity dir) := by
  obtain ⟨hsrc, hdir⟩ := isDirectory_itemTree h
  have hname : IsEntryName "item.py" := by decide
  have hread : Text.Utf8.decode (Text.Utf8.encode itemSource) = .ok itemSource ∧ '\r' ∉ itemSource.toList := by
    decide +kernel
  have hlisted : (itemTree dir).get? (["src"] ++ [dir] ++ ["item.py"]) = some (.file (Text.Utf8.encode itemSource)) := by
    simp [itemTree, Tree.get?, Data.Entries.get?]
  exact ⟨_, searchPath_directory (Tree.resolve_directory hsrc) (Tree.entry?_of_find (Tree.find_directory hsrc true)),
    foundIn_of_file hdir hname hlisted hread hsource hmodule hscan (List.mem_singleton_self _)⟩

theorem fragment_beside_iff_shop :
    ∃ visits, searchPath (itemTree "shop") {} ⟨"/", ["src"]⟩ = .ok visits ∧
      FoundIn visits ⟨"/", ["src"]⟩ ["shop"] (itemEntity "shop") ∧
      Fragment.path {} (itemEntity "shop") = "/".intercalate (["shop"] ++ [fileName {} (itemEntity "shop")]) := by
  have hdir : IsEntryName "shop" := by decide
  obtain ⟨hsrc, -⟩ := isDirectory_itemTree hdir
  obtain ⟨visits, hvisits, hfound⟩ := foundIn_itemTree hdir (by decide +kernel) (by decide +kernel) (by decide +kernel)
  have hw : (itemTree "shop").WellFormed := by decide +kernel
  have hl : ({} : Settings).language = .python := rfl
  obtain ⟨found, hsearch, -, hbeside, -⟩ := fragment_beside_iff hw hl (Tree.resolve_directory hsrc)
    (Tree.entry?_of_find (Tree.find_directory hsrc true))
  obtain rfl := Except.ok.inj (hvisits.symm.trans hsearch)
  exact ⟨visits, hvisits, hfound, (hbeside _ _ hfound).mpr (by decide)⟩

/-- A class in a directory with a dot in its name is found, and its fragment lies in two directories of other names. -/
theorem dotted_directory_left :
    ∃ visits, searchPath (itemTree "my.dir") {} ⟨"/", ["src"]⟩ = .ok visits ∧
      FoundIn visits ⟨"/", ["src"]⟩ ["my.dir"] (itemEntity "my.dir") ∧
      Fragment.path {} (itemEntity "my.dir") = "my/dir/item_queries.py" ∧
      Fragment.path {} (itemEntity "my.dir") ≠ "/".intercalate (["my.dir"] ++ [fileName {} (itemEntity "my.dir")]) := by
  have hdir : IsEntryName "my.dir" := by decide
  obtain ⟨visits, hvisits, hfound⟩ := foundIn_itemTree hdir (by decide +kernel) (by decide +kernel) (by decide +kernel)
  exact ⟨visits, hvisits, hfound, by decide +kernel, by decide +kernel⟩

end CrudQueries.Discovery
