/-
  CrudQueries.Proofs.Generation.Containment — where the files of a run lie below the output.

  A plain path is relative and no part of it is empty or made of dots, so it leads to a place strictly
  inside whatever directory it is joined to (`join_plain`). The names of files are always plain: they
  are made of names and suffixes that validation has accepted (`isPlainPath_markerPath`,
  `fileName_plain`). Packages are not looked at by validation. A dotted package is cut at its dots, so
  none of its folders is made of dots, but one is empty where the package begins or ends with a dot or
  has two of them in a row, and a slash in it is one in the path. Hence all paths are plain exactly if
  no package of a type with fields is cut into an empty part (`paths_plain_iff`).
-/

import CrudQueries.Proofs.Generation.Synthesis
import CrudQueries.Proofs.Text.Lines
import CrudQueries.Proofs.Text.Words

namespace CrudQueries.Generation

open CrudQueries.Files (Path partsOf rootOf)
open CrudQueries.Fragment (fileName markerPath packageFolders)
open CrudQueries.Text
open CrudQueries.Validation (AcceptedEntity AcceptedSettings accepted_of_full full)

/-! ## Plain paths -/

/-- A part of a path that is a name: not empty, no dot, not two dots. -/
def isPlainPart (part : List Char) : Bool := !([[], ['.'], ['.', '.']].contains part)

/-- A path whose parts between slashes are all names. -/
def isPlainPath (path : String) : Bool := (splitOnChar '/' path.toList).all isPlainPart

/-- A package that neither its dots nor its slashes cut into an empty part. -/
def isPlainPackage (package : String) : Bool :=
  package.isEmpty || (splitOnChar '.' package.toList).all fun part => (splitOnChar '/' part).all (· != [])

theorem rootOf_plain {path : String} (h : isPlainPath path = true) : rootOf path = "" := by
  cases hp : path.toList with
  | nil => simp [rootOf, hp]
  | cons c cs =>
    have hc : c ≠ '/' := by
      rintro rfl
      simp [isPlainPath, hp, splitOnChar, isPlainPart] at h
    simp [rootOf, hp, hc]

theorem partsOf_plain {path : String} (h : isPlainPath path = true) :
    partsOf path = (splitOnChar '/' path.toList).map String.ofList := by
  rw [partsOf, List.filter_eq_self.mpr]
  intro part hp
  have := List.all_eq_true.mp h part hp
  simp only [isPlainPart, List.contains_cons, Bool.not_eq_true', Bool.or_eq_false_iff, beq_eq_false_iff_ne] at this
  simp [this.1, this.2.1]

/-- Plain paths with the same parts are the same. -/
theorem eq_of_partsOf {path other : String} (h : isPlainPath path = true) (h' : isPlainPath other = true)
    (heq : partsOf path = partsOf other) : path = other := by
  rw [partsOf_plain h, partsOf_plain h'] at heq
  exact String.toList_inj.mp (splitOnChar_inj ((List.map_inj_right fun _ _ h => String.ofList_injective h).mp heq))

/-- Joined to a directory, a plain path adds its parts. -/
theorem join_ofText_plain {path : String} (h : isPlainPath path = true) (output : Path) :
    output.join (Path.ofText path) = ⟨output.root, output.parts ++ partsOf path⟩ := by
  simp [Path.join, Path.isAbsolute, Path.ofText, rootOf_plain h]

/-- So it leads strictly inside of it. -/
theorem join_plain {path : String} (h : isPlainPath path = true) (output : Path) :
    ∃ names, names ≠ [] ∧ "." ∉ names ∧ ".." ∉ names ∧
      output.join (Path.ofText path) = ⟨output.root, output.parts ++ names⟩ := by
  have hpart : ∀ part ∈ splitOnChar '/' path.toList, part ≠ ['.'] ∧ part ≠ ['.', '.'] := by
    intro part hp
    have := List.all_eq_true.mp h part hp
    simp only [isPlainPart, List.contains_cons, Bool.not_eq_true', Bool.or_eq_false_iff, beq_eq_false_iff_ne] at this
    exact ⟨this.2.1, this.2.2.1⟩
  refine ⟨(splitOnChar '/' path.toList).map String.ofList, ?_, ?_, ?_, ?_⟩
  · simpa using splitOnChar_ne_nil '/' path.toList
  · intro hm
    obtain ⟨part, hp, he⟩ := List.mem_map.mp hm
    exact (hpart part hp).1 (by rw [← String.toList_ofList (l := part), he]; rfl)
  · intro hm
    obtain ⟨part, hp, he⟩ := List.mem_map.mp hm
    exact (hpart part hp).2 (by rw [← String.toList_ofList (l := part), he]; rfl)
  · rw [join_ofText_plain h, partsOf_plain h]

/-! ## Names of files -/

/-- A text without slashes that is longer than two characters is a plain path. -/
theorem isPlainPath_of_not_mem {path : String} (hs : '/' ∉ path.toList) (hl : 2 < path.toList.length) :
    isPlainPath path = true := by
  have hne : ∀ part : List Char, part.length ≤ 2 → path.toList ≠ part := by
    rintro part hp rfl; omega
  simp [isPlainPath, splitOnChar_of_not_mem hs, isPlainPart, hne [] (by simp), hne ['.'] (by simp),
    hne ['.', '.'] (by simp)]

variable {settings : Settings} {e : Entity} {entities : List Entity} {c : Char}

/-- The characters of the names of files: those of names, and a newline or a dot. -/
def isFileChar (c : Char) : Bool := isNameChar c || ['\n', '.'].contains c

theorem isFileChar_of_name (h : isNameChar c = true ∨ c = '\n') : isFileChar c = true := by
  rcases h with h | rfl
  · rw [isFileChar, h, Bool.true_or]
  · decide

theorem isFileChar_of_ending (h : c ∈ ".g.cs".toList ∨ c ∈ ".py".toList) : isFileChar c = true := by
  have hall : ".g.cs".toList.all isFileChar = true ∧ ".py".toList.all isFileChar = true := by decide
  exact h.elim (List.all_eq_true.1 hall.1 c) (List.all_eq_true.1 hall.2 c)

theorem isFileChar_attributeName (h : isIdentifier settings.markerName = true) (hc : c ∈ settings.attributeName.toList) :
    isFileChar c = true := by
  rw [Settings.attributeName] at hc
  split at hc
  · exact isFileChar_of_name (mem_identifier h hc)
  · rw [String.toList_append, List.mem_append] at hc
    rcases hc with hc | hc
    · exact isFileChar_of_name (mem_identifier h hc)
    · have hall : "Attribute".toList.all isFileChar = true := by decide
      exact List.all_eq_true.1 hall c hc

theorem isFileChar_markerPath (h : AcceptedSettings settings) (hc : c ∈ (markerPath settings).toList) :
    isFileChar c = true := by
  rw [markerPath] at hc
  split at hc
  · rw [String.toList_append, List.mem_append] at hc
    exact hc.elim (isFileChar_attributeName h.markerName) fun hc => isFileChar_of_ending (.inl hc)
  · rw [String.toList_append, List.mem_append] at hc
    exact hc.elim (fun hc => isFileChar_of_name (.inl (mem_snakeCase hc))) fun hc => isFileChar_of_ending (.inr hc)

theorem isFileChar_fileName (hs : AcceptedSettings settings) (he : AcceptedEntity settings e)
    (hc : c ∈ (fileName settings e).toList) : isFileChar c = true := by
  rw [fileName] at hc
  split at hc
  · rw [String.toList_append, List.mem_append] at hc
    exact hc.elim (fun hc => isFileChar_of_name (mem_identifier he.typeName hc)) fun hc => isFileChar_of_ending (.inl hc)
  · rw [String.toList_append, String.toList_append, List.mem_append, List.mem_append] at hc
    rcases hc with (hc | hc) | hc
    · exact isFileChar_of_name (.inl (mem_snakeCase hc))
    · exact isFileChar_of_name (mem_suffix hs.moduleSuffix hc)
    · exact isFileChar_of_ending (.inr hc)

theorem markerPath_plain (h : AcceptedSettings settings) :
    '/' ∉ (markerPath settings).toList ∧ 2 < (markerPath settings).toList.length := by
  refine ⟨fun hm => absurd (isFileChar_markerPath h hm) (by decide), ?_⟩
  have hc : 2 < ".g.cs".toList.length ∧ 2 < ".py".toList.length := by decide
  rw [markerPath]
  split
  · rw [String.toList_append, List.length_append]
    omega
  · rw [String.toList_append, List.length_append]
    omega

theorem isPlainPath_markerPath (h : AcceptedSettings settings) : isPlainPath (markerPath settings) = true :=
  isPlainPath_of_not_mem (markerPath_plain h).1 (markerPath_plain h).2

theorem fileName_plain (hs : AcceptedSettings settings) (he : AcceptedEntity settings e) :
    '/' ∉ (fileName settings e).toList ∧ 2 < (fileName settings e).toList.length := by
  refine ⟨fun hm => absurd (isFileChar_fileName hs he hm) (by decide), ?_⟩
  have hc : 2 < ".g.cs".toList.length ∧ 2 < ".py".toList.length := by decide
  rw [fileName]
  split
  · rw [String.toList_append, List.length_append]
    omega
  · rw [String.toList_append, List.length_append]
    omega

/-! ## Folders -/

/-- A part of a package has no dot, so it is plain unless it is empty. -/
theorem isPlainPart_of_package {package part name : List Char} (hp : part ∈ splitOnChar '.' package)
    (hn : name ∈ splitOnChar '/' part) : isPlainPart name = (name != []) := by
  have hdot : '.' ∉ name := fun hm => (mem_splitOnChar hp).1 ((mem_splitOnChar hn).2 _ hm)
  have h1 : name ≠ ['.'] := by rintro rfl; exact hdot (by simp)
  have h2 : name ≠ ['.', '.'] := by rintro rfl; exact hdot (by simp)
  rw [Bool.eq_iff_iff]
  simp [isPlainPart, h1, h2]

theorem isPlainPath_path (hs : AcceptedSettings settings) (he : AcceptedEntity settings e)
    (hl : settings.language = .python) :
    isPlainPath (Fragment.path settings e) = isPlainPackage e.outputPackage := by
  obtain ⟨hslash, hlen⟩ := fileName_plain hs he
  have hfile : (splitOnChar '/' (fileName settings e).toList).all isPlainPart = true :=
    isPlainPath_of_not_mem hslash hlen
  rw [isPlainPath, Fragment.path, hl]
  simp only [String.toList_intercalate]
  rw [show "/".toList = ['/'] by decide, splitOnChar_intercalate _ (by simp), List.all_flatMap, List.map_append,
    List.all_append, List.map_singleton, List.all_cons, hfile, isPlainPackage, packageFolders]
  by_cases hp : e.outputPackage.isEmpty = true
  · simp [hp]
  · simp only [hp, Bool.false_eq_true, if_false, List.all_nil, Bool.and_true, Bool.false_or, List.map_map, List.all_map]
    rw [Bool.eq_iff_iff, List.all_eq_true, List.all_eq_true]
    refine forall_congr' fun part => forall_congr' fun hpart => ?_
    rw [Function.comp_apply, Function.comp_apply, String.toList_ofList, List.all_eq_true, List.all_eq_true]
    exact forall_congr' fun name => forall_congr' fun hname => by rw [isPlainPart_of_package hpart hname]

theorem isPlainPath_csharp (hs : AcceptedSettings settings) (he : AcceptedEntity settings e)
    (hl : settings.language = .csharp) : isPlainPath (Fragment.path settings e) = true := by
  obtain ⟨hslash, hlen⟩ := fileName_plain hs he
  rw [Fragment.path, hl]
  exact isPlainPath_of_not_mem hslash hlen

/-! ## Paths that leave the output -/

theorem isAbsolute_ofText (path : String) : (Path.ofText path).isAbsolute = (path.toList.head? == some '/') := by
  have hr : rootOf path = "" ↔ path.toList.head? ≠ some '/' := by
    rw [rootOf]
    split <;> rename_i h <;> simp [h]
    cases hp : path.toList with
    | nil => simp
    | cons c cs => simpa using fun hc => h cs (by rw [hp, hc])
  rw [Bool.eq_iff_iff]
  simp [Path.isAbsolute, Path.ofText, hr]

/-- How a path begins whose folders are cut from a package. -/
theorem head?_folders (c : Char) (cs name : List Char) :
    (['/'].intercalate (splitOnChar '.' (c :: cs) ++ [name])).head? = some (if c = '.' then '/' else c) := by
  obtain ⟨first, more, hsplit, hfirst⟩ : ∃ first more, splitOnChar '.' (c :: cs) = first :: more ∧
      (first ++ ['/']).head? = some (if c = '.' then '/' else c) := by
    rw [splitOnChar]
    by_cases hc : c = '.'
    · exact ⟨_, _, by rw [if_pos (by simpa using hc)], by simp [hc]⟩
    · cases hs : splitOnChar '.' cs with
      | nil => exact absurd hs (splitOnChar_ne_nil '.' cs)
      | cons part parts => exact ⟨_, _, by rw [if_neg (by simpa using hc)], by simp [hc]⟩
  obtain ⟨next, rest, hrest⟩ : ∃ next rest, more ++ [name] = next :: rest := List.exists_cons_of_ne_nil (by simp)
  rw [hsplit, List.cons_append, hrest, List.intercalate_cons_cons, List.head?_append, hfirst]
  rfl

/-- A package that begins with a dot or a slash makes the path absolute, and no other does. -/
theorem isAbsolute_path (hs : AcceptedSettings settings) (he : AcceptedEntity settings e)
    (hl : settings.language = .python) :
    (Path.ofText (Fragment.path settings e)).isAbsolute = true ↔
      e.outputPackage.toList.head? = some '.' ∨ e.outputPackage.toList.head? = some '/' := by
  obtain ⟨hslash, hlen⟩ := fileName_plain hs he
  rw [isAbsolute_ofText, Fragment.path, hl]
  simp only [String.toList_intercalate]
  rw [show "/".toList = ['/'] by decide, List.map_append]
  cases hp : e.outputPackage.toList with
  | nil =>
    have hempty : e.outputPackage.isEmpty = true := by simpa using hp
    obtain ⟨c, cs, hc⟩ := List.exists_cons_of_length_pos (l := (fileName settings e).toList) (by omega)
    have hne : c ≠ '/' := by rintro rfl; exact hslash (by simp [hc])
    simp [packageFolders, hempty, hc, hne]
  | cons c cs =>
    have hempty : ¬ e.outputPackage.isEmpty = true := by
      intro h
      rw [String.isEmpty_iff] at h
      simp [h] at hp
    have hfolders : (packageFolders e.outputPackage).map String.toList = splitOnChar '.' (c :: cs) := by
      simp [packageFolders, hempty, hp, Function.comp_def]
    rw [hfolders, List.map_singleton, head?_folders]
    by_cases hc : c = '.'
    · simp [hc]
    · simp [hc]

/-! ## All files -/

/-- The files of a run without errors have plain paths exactly if no package of a type with fields
  is cut into an empty part. Plain paths lead strictly inside the output, and a path leaves it
  altogether exactly if the package begins with a dot or a slash. -/
theorem paths_plain_iff (h : (full entities settings).hasErrors = false) :
    ((∀ f ∈ (synthesise settings (full entities settings) entities).files, isPlainPath f.1 = true) ↔
      (settings.language = .python → ∀ e ∈ entities, e.fields ≠ [] → isPlainPackage e.outputPackage = true)) ∧
    (∀ f ∈ (synthesise settings (full entities settings) entities).files, isPlainPath f.1 = true →
      ∀ output : Path, ∃ names, names ≠ [] ∧ "." ∉ names ∧ ".." ∉ names ∧
        output.join (Path.ofText f.1) = ⟨output.root, output.parts ++ names⟩) ∧
    (settings.language = .python → ∀ e ∈ entities, e.fields ≠ [] →
      ∃ f ∈ (synthesise settings (full entities settings) entities).files,
        f.1 = Fragment.path settings e ∧
        ((Path.ofText f.1).isAbsolute = true ↔
          e.outputPackage.toList.head? = some '.' ∨ e.outputPackage.toList.head? = some '/')) := by
  obtain ⟨hs, he⟩ := accepted_of_full h
  rw [synthesise_files h]
  have hkey : ∀ {p : String}, p ∈ (allFiles settings entities).map (·.1) ↔ _ := mem_keys_files he
  refine ⟨⟨fun hall hl e hmem hf => ?_, fun hall f hf => ?_⟩, fun f _ hp output => join_plain hp output,
    fun hl e hmem hf => ?_⟩
  · obtain ⟨f, hfm, hfp⟩ := List.mem_map.mp (hkey.mpr (Or.inr ⟨e, hmem, hf, rfl⟩))
    rw [← isPlainPath_path hs (he e hmem) hl, ← hfp]
    exact hall f hfm
  · rcases hkey.mp (List.mem_map_of_mem hf) with hp | ⟨e, hmem, hne, hp⟩
    · rw [hp]; exact isPlainPath_markerPath hs
    · rw [hp]
      cases hl : settings.language with
      | csharp => exact isPlainPath_csharp hs (he e hmem) hl
      | python => rw [isPlainPath_path hs (he e hmem) hl]; exact hall hl e hmem hne
  · obtain ⟨f, hfm, hfp⟩ := List.mem_map.mp (hkey.mpr (Or.inr ⟨e, hmem, hf, rfl⟩))
    exact ⟨f, hfm, hfp, by rw [hfp]; exact isAbsolute_path hs (he e hmem) hl⟩

/-- A type in a package of its own, and one in the root. -/
theorem paths_plain_iff_shop :
    let items : Entity := ⟨"Item", some "items", ["title"], [], 1, none, none, none, some "shop.models"⟩
    let tags : Entity := ⟨"Tag", some "tags", ["label"], [], 1, none, none, some "tag", none⟩
    (full [items, tags] {}).hasErrors = false ∧
    ∀ f ∈ (synthesise {} (full [items, tags] {}) [items, tags]).files, isPlainPath f.1 = true := by
  intro items tags
  have h : (full [items, tags] {}).hasErrors = false := by decide +kernel
  have hp : ∀ e ∈ [items, tags], e.fields ≠ [] → isPlainPackage e.outputPackage = true := by decide
  exact ⟨h, (paths_plain_iff h).1.mpr fun _ => hp⟩

/-- A hidden directory is a package that begins with a dot. Validation accepts it, and its fragment is
  written outside of the output. -/
theorem hidden_package_leaves_output :
    let e : Entity := ⟨"Item", some "items", ["title"], [], 1, none, none, none, some ".hidden"⟩
    (full [e] {}).hasErrors = false ∧
    ∃ f ∈ (synthesise {} (full [e] {}) [e]).files, isPlainPath f.1 = false ∧
      (⟨"/", ["home", "out"]⟩ : Path).join (Path.ofText f.1) = ⟨"/", ["hidden", "item_queries.py"]⟩ := by
  decide +kernel

end CrudQueries.Generation
