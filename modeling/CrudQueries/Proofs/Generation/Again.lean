/-
  CrudQueries.Proofs.Generation.Again — the same run once more.

  A run on given entities depends on the tree through its export alone, and the export repeats itself
  (`Export.run_again`): so a second run leaves the tree as the first one left it, whether that succeeded, failed for
  some files, cleared the output directory or stopped before it (`run_twice`). Its report is the same too, but for one
  thing: an error about a directory with too long a name tells the path of the first directory that could not be
  made, and a second run finds some of them made (`other_path_named`).
-/

import CrudQueries.Proofs.Export.Again
import CrudQueries.Proofs.Generation.Distinct

namespace CrudQueries.Generation

open CrudQueries.Export (FilesAt SameButPath)
open CrudQueries.Files (IsName Path Tree Trouble isName_replicate partsOf utf8ByteSize_replicate)
open CrudQueries.Files.Tree (IsFileAt TooLong fits mem_partsOf names_of_resolve resolve_noLinks)
open CrudQueries.Fragment (fileName packageFolders)
open CrudQueries.Text
open CrudQueries.Validation (AcceptedEntity AcceptedSettings full)

variable {t u : Tree} {settings : Settings} {entities : List Entity} {e : Entity} {out : Path} {path : String}

/-! ## The paths of files -/

/-- Nothing in the strings that the package comes from is a null character. -/
def HasNoNull (e : Entity) : Prop :=
  (∀ p ∈ e.package, '\x00' ∉ p.toList) ∧ ∀ p ∈ e.modulePath, '\x00' ∉ p.toList

theorem mem_parentPath {c : Char} (h : c ∈ (Entity.parentPath path).toList) : c = '.' ∨ c ∈ path.toList := by
  unfold Entity.parentPath at h
  split at h
  · rename_i last rest hsplit
    have hstring : String.ofList (['.'].intercalate rest.reverse) =
        ".".intercalate (rest.reverse.map String.ofList) := by
      apply String.toList_inj.mp
      simp [String.toList_intercalate, Function.comp_def]
    rw [hstring] at h
    rcases mem_intercalate h with hc | ⟨part, hpart, hc⟩
    · exact .inl (by simpa using hc)
    · obtain ⟨chars, hchars, rfl⟩ := List.mem_map.mp hpart
      have hmem : chars ∈ splitOnChar '.' path.toList := by
        rw [← List.mem_reverse, hsplit]
        exact List.mem_cons_of_mem _ (List.mem_reverse.mp hchars)
      rw [String.toList_ofList] at hc
      exact .inr ((mem_splitOnChar hmem).2 c hc)
  · simp at h

theorem HasNoNull.outputPackage (h : HasNoNull e) : '\x00' ∉ e.outputPackage.toList := by
  cases hp : e.package with
  | some package =>
    simp only [Entity.outputPackage, hp]
    exact h.1 package hp
  | none =>
    cases hm : e.modulePath with
    | some path =>
      simp only [Entity.outputPackage, hp, hm]
      intro hnull
      rcases mem_parentPath hnull with hc | hc
      · exact absurd hc (by decide)
      · exact h.2 path hm hc
    | none =>
      simp only [Entity.outputPackage, hp, hm]
      decide

/-- The path of a file has a null character exactly if folders are made of a package with one. -/
theorem null_mem_path_iff (hs : AcceptedSettings settings) (he : AcceptedEntity settings e) :
    '\x00' ∈ (Fragment.path settings e).toList ↔
      settings.language = .python ∧ '\x00' ∈ e.outputPackage.toList := by
  have hname : '\x00' ∉ (fileName settings e).toList := fun hm => absurd (isFileChar_fileName hs he hm) (by decide)
  unfold Fragment.path
  cases hl : settings.language with
  | csharp => simp [hname]
  | python =>
    simp only [true_and]
    constructor
    · intro hm
      rcases mem_intercalate hm with hc | ⟨part, hpart, hc⟩
      · exact absurd hc (by decide)
      rcases List.mem_append.mp hpart with hpart | hpart
      · unfold packageFolders at hpart
        split at hpart
        · cases hpart
        · obtain ⟨chars, hchars, rfl⟩ := List.mem_map.mp hpart
          rw [String.toList_ofList] at hc
          exact (mem_splitOnChar hchars).2 _ hc
      · rw [List.mem_singleton.mp hpart] at hc
        exact absurd hc hname
    · intro hm
      obtain ⟨part, hpart, hc⟩ := exists_mem_splitOnChar (show '\x00' ≠ '.' by decide) hm
      have hempty : ¬ e.outputPackage.isEmpty = true := fun hempty => by
        rw [String.isEmpty_iff.mp hempty] at hm
        cases hm
      refine mem_intercalate_of_mem (List.mem_append_left _ ?_) (s := String.ofList part) (by rwa [String.toList_ofList])
      rw [packageFolders, if_neg hempty]
      exact List.mem_map_of_mem hpart

theorem null_not_mem_files (hs : AcceptedSettings settings) (h : ∀ e ∈ entities, HasNoNull e) :
    ∀ f ∈ (synthesise settings (full entities settings) entities).files, '\x00' ∉ f.1.toList := by
  intro f hf
  rw [files_synthesise] at hf
  rcases List.mem_cons.mp hf with rfl | hf
  · exact fun hm => absurd (isFileChar_markerPath hs hm) (by decide)
  · obtain ⟨e, he, hf⟩ := List.mem_flatMap.mp hf
    obtain ⟨ha, hne, -⟩ := accepted_generated he
    obtain ⟨text, -, hfile⟩ := fragmentFiles_accepted ha hne
    rw [hfile, List.mem_singleton] at hf
    obtain ⟨i, hi, -⟩ := mem_generated he
    rw [hf]
    exact fun hm => (h e (List.mem_of_getElem? hi)).outputPackage ((null_mem_path_iff hs ha).mp hm).2

/-- A name with a dot that does not end as the name of a file does is none of the parts of its path. -/
theorem IsFilePath.not_mem (h : IsFilePath path) {n : String} (hdot : '.' ∈ n.toList)
    (hn : ¬ (".py".toList <:+ n.toList ∨ ".g.cs".toList <:+ n.toList)) : n ∉ partsOf path := by
  obtain ⟨folders, name, hparts, hfolders, hname⟩ := h.partsOf_eq
  rw [hparts]
  intro hmem
  rcases List.mem_append.mp hmem with hmem | hmem
  · exact hfolders n hmem hdot
  · rw [List.mem_singleton.mp hmem] at hn
    exact hn hname

theorem IsFilePath.isName (h : IsFilePath path) (hnull : '\x00' ∉ path.toList) : ∀ n ∈ partsOf path, IsName n := by
  intro n hn
  obtain ⟨hempty, hhere, hslash, hchars⟩ := mem_partsOf hn
  refine ⟨hempty, hhere, ?_, hslash, fun hm => hnull (hchars _ hm)⟩
  rintro rfl
  exact h.not_mem (by decide) (by decide) hn

/-- Joined to a directory the path of a file is that of a file, also if it leads elsewhere. -/
theorem IsFilePath.isFileAt (hroot : out.root ≠ "") (hn : ∀ n ∈ out.parts, IsName n) (h : IsFilePath path)
    (hnull : '\x00' ∉ path.toList) :
    ∃ place name, IsFileAt (out.join (Path.ofText path)) place name := by
  obtain ⟨folders, name, hparts, -⟩ := h.partsOf_eq
  have hnames : ∀ n ∈ folders ++ [name], IsName n := hparts ▸ h.isName hnull
  cases habs : (Path.ofText path).isAbsolute with
  | true =>
    have hjoin : out.join (Path.ofText path) = Path.ofText path := by rw [Path.join, habs, if_pos rfl]
    have hrooted : (Path.ofText path).root ≠ "" := by simpa [Path.isAbsolute] using habs
    exact ⟨folders, name, by rwa [hjoin], by rwa [hjoin], hnames⟩
  | false =>
    exact ⟨_, _, Tree.isFileAt_join hroot hn habs hparts hnames⟩

/-- The paths with too long a name of directories on the way of the output or of a file. -/
def IsTooLong (out : Path) (files : List (String × String)) (text : String) : Prop :=
  ∃ dir ∈ out :: files.map (fun f => (out.join (Path.ofText f.1)).parent), TooLong dir.root dir.parts text

theorem filesAt (hroot : out.root ≠ "") (hn : ∀ n ∈ out.parts, IsName n) (hs : AcceptedSettings settings)
    (h : ∀ e ∈ entities, HasNoNull e) {files : List (String × String)}
    (hfiles : files = (synthesise settings (full entities settings) entities).files) {told : String → Prop}
    (htold : ∀ p, IsTooLong out files p → told p) : FilesAt out told files := by
  intro f hf
  have hpath := isFilePath_files entities hs f (hfiles ▸ hf)
  obtain ⟨place, name, hfile⟩ := hpath.isFileAt hroot hn (null_not_mem_files hs h f (hfiles ▸ hf))
  refine ⟨place, name, hfile, fun p hp => htold p ⟨_, List.mem_cons_of_mem _ (List.mem_map_of_mem hf), ?_⟩⟩
  rwa [hfile.parent_eq]

/-! ## A second run -/

/-- A run on given entities that has come to its export. -/
def exportedRun (options : Options) (entities : List Entity) (settings : Settings) (out : Path) (x : Export.Run) : Run :=
  { options, output := some out, intake := some .given, work := some (entities, settings)
    validation := some (full entities settings), abort := abort? options (full entities settings)
    synthesis := some (synthesise settings (full entities settings) entities), exported := some x }

/-- Its report reads the errors, the success and the inventory off the export. -/
theorem report_exportedRun (options : Options) (entities : List Entity) (settings : Settings) (out : Path)
    {told : String → Prop} {x y : Export.Run} (h : x.Alike told y) :
    let report := fun x => (exportedRun options entities settings out x).report
    report y = { report x with exportErrors := (report y).exportErrors } ∧
      List.Forall₂ (SameButPath told) (report x).exportErrors (report y).exportErrors := by
  have hempty : y.errors.isEmpty = x.errors.isEmpty := h.success
  refine ⟨?_, h.errors⟩
  simp only [exportedRun, Run.report, Run.stages, Run.inputErrors, Run.validationErrors, Report.hasNoErrors,
    Option.map_some, Option.getD_some, h.success, h.inventory, hempty]
  rfl

section

variable {options : Options} {output : Option String}

theorem run_exports {p : Path} (hr : t.resolve p = .ok out)
    (hends : endsWithValidation options (full entities settings) = false) :
    run t options (.given entities settings) (some p) =
      let done := Export.run t settings (exportOptions options) out
        (synthesise settings (full entities settings) entities).files
      (done.1, exportedRun options entities settings out done.2, done.2.fault.map .ofTrouble) := by
  have hplace : (some p).mapM (fun p => t.resolve p) = .ok (some out) := by
    rw [Option.mapM_some, hr]
    rfl
  unfold endsWithValidation at hends
  rw [run_on_given hplace]
  unfold process exportedRun
  simp only [hends, Bool.false_eq_true, if_false]
  rfl

theorem files_of_exports {p : Path} (hr : t.resolve p = .ok out)
    (hends : endsWithValidation options (full entities settings) = false) :
    (run t options (.given entities settings) (some p)).2.1.report.files =
      (synthesise settings (full entities settings) entities).files := by
  rw [run_exports hr hends]
  rfl

/-- Otherwise it changes nothing. -/
theorem run_unchanged (h : ∀ text out, output = some text → t.resolve (Path.ofText text) = .ok out →
      endsWithValidation options (full entities settings) = true) :
    (run t options (.given entities settings) (output.map Path.ofText)).1 = t := by
  cases hplace : (output.map Path.ofText).mapM (fun p => t.resolve p) with
  | error e =>
    unfold run
    simp only [hplace]
  | ok place =>
    rw [run_on_given hplace]
    cases output with
    | none =>
      obtain rfl : none = place := Except.ok.inj hplace
      have hsame := process_without_output t (r := { options, intake := some .given }) rfl rfl entities settings
      simp only [hsame.1]
    | some text =>
      have hends : endsWithValidation options (full entities settings) = true := by
        cases hr : t.resolve (Path.ofText text) with
        | ok out => exact h text out rfl hr
        | error e =>
          rw [Option.map_some, Option.mapM_some, hr] at hplace
          cases hplace
      rw [process_of_ends t { options, output := place, intake := some .given } hends]

end

theorem eq_of_sameButPath {texts others : List String} {told : String → Prop} (htold : ∀ p, ¬ told p)
    (h : List.Forall₂ (SameButPath told) texts others) : others = texts := by
  induction h with
  | nil => rfl
  | cons hsame _ ih =>
    cases hsame with
    | same text => rw [ih]
    | named front hp hq => exact absurd hp (htold _)

/-- Longer texts without quotes are shown longer. -/
theorem shown_append_ne {s u : String} (hs : '\'' ∉ s.toList) (hu : '\'' ∉ u.toList) (hne : u ≠ "") :
    shown (s ++ u) ≠ shown s := by
  have hquote : ∀ cs : List Char, '\'' ∉ cs → displayQuote cs = '\'' := by
    intro cs hcs
    simp [displayQuote, hcs]
  have hchar : ∀ c, showChar '\'' c ≠ [] := by
    intro c
    unfold showChar
    repeat' split
    all_goals simp
  have hlength : 0 < (u.toList.flatMap (showChar '\'')).length := by
    obtain ⟨c, cs, hu⟩ := List.exists_cons_of_ne_nil (fun h => hne (String.toList_eq_nil_iff.mp h))
    rw [hu, List.flatMap_cons, List.length_append]
    have := List.length_pos_of_ne_nil (hchar c)
    omega
  intro h
  unfold shown at h
  rw [hquote _ hs, hquote _ (by rw [String.toList_append, List.mem_append, not_or]; exact ⟨hs, hu⟩)] at h
  have hchars := congrArg List.length (String.ofList_injective h)
  simp only [String.toList_append, List.flatMap_append, List.length_cons, List.length_append] at hchars
  omega

/-- Where the output directory cannot be made that is the only error. -/
theorem run_of_trouble {options : Options} {p : Path} {e : Trouble} (hr : t.resolve p = .ok out)
    (hends : endsWithValidation options (full entities settings) = false) (hc : options.clean = false)
    (hm : t.makeDirs out = ⟨u, some e⟩) :
    let done := run t options (.given entities settings) (some p)
    done.1 = u ∧ done.2.1.report.exportErrors = [Export.Run.directoryError e] := by
  have hm' : ((Export.cleaned t (exportOptions options) out).makeDirs out).trouble = some e := by
    rw [Export.cleaned_of_not_clean t hc, hm]
  rw [run_exports hr hends, Export.run_of_trouble settings hm', Export.cleaned_of_not_clean t hc, hm]
  exact ⟨rfl, rfl⟩

theorem text_below (name : String) :
    (⟨"/", ["new", name, "b"]⟩ : Path).text = (⟨"/", ["new", name]⟩ : Path).text ++ "/b" := by
  simp [Path.text, String.append_assoc]

theorem directoryError_ne {name : String} (hquote : '\'' ∉ name.toList) :
    Export.Run.directoryError (.onPath .nameTooLong (⟨"/", ["new", name]⟩ : Path).text) ≠
      Export.Run.directoryError (.onPath .nameTooLong (⟨"/", ["new", name, "b"]⟩ : Path).text) := by
  have hfront : '\'' ∉ (⟨"/", ["new", name]⟩ : Path).text.toList := by simpa [Path.text] using hquote
  rw [text_below]
  generalize (⟨"/", ["new", name]⟩ : Path).text = front at hfront ⊢
  intro heq
  unfold Export.Run.directoryError Trouble.text Trouble.message at heq
  have hshown := String.append_right_inj _ |>.mp (String.append_right_inj _ |>.mp (String.append_right_inj _ |>.mp heq))
  exact shown_append_ne hfront (by decide) (by decide) hshown.symm

section

variable {name : String} (hn : IsName name) (hlong : fits name = false)
include hn hlong

/-- Once the first of three directories is there and the second has too long a name, the path of the last is told. -/
theorem makeDirs_twice :
    (⟨[], [(["new"], .dir)]⟩ : Tree).makeDirs ⟨"/", ["new", name, "b"]⟩ =
      ⟨⟨[], [(["new"], .dir)]⟩, some (.onPath .nameTooLong (⟨"/", ["new", name, "b"]⟩ : Path).text)⟩ := by
  have hp : (⟨[], [(["new"], .dir)]⟩ : Tree).Plain := by decide +kernel
  have hnames : ∀ n ∈ ["new"] ++ name :: ["b"], IsName n := by simpa using ⟨by decide, hn, by decide⟩
  exact Tree.makeDirs_long hp.toWellFormed (by decide) hnames (by decide) hlong

/-- In an empty tree the first is made, and then the path of the second is told. -/
theorem makeDirs_once :
    (⟨[], []⟩ : Tree).makeDirs ⟨"/", ["new", name, "b"]⟩ =
      ⟨⟨[], [(["new"], .dir)]⟩, some (.onPath .nameTooLong (⟨"/", ["new", name]⟩ : Path).text)⟩ := by
  have hp : (⟨[], []⟩ : Tree).Plain := by decide +kernel
  have hp' : (⟨[], [(["new"], .dir)]⟩ : Tree).Plain := by decide +kernel
  have hroot : "/" ≠ "" := by decide
  have hnew : IsName "new" := by decide
  have hnames : ∀ n ∈ ["new"] ++ name :: [], IsName n := by simpa using ⟨hnew, hn⟩
  have hnames' : ∀ n ∈ ["new", name] ++ ["b"], IsName n := by simpa using ⟨hnew, hn, by decide⟩
  -- What lies below the first directory is not there yet.
  have hmissing : ∀ rest ≠ [], (∀ n ∈ "new" :: rest, IsName n) →
      (⟨[], []⟩ : Tree).makeDir ⟨"/", "new" :: rest⟩ = .error (.onPath .noEntry (⟨"/", "new" :: rest⟩ : Path).text) := by
    intro rest hrest hall
    have hwalk : (⟨[], []⟩ : Tree).walk false Files.maxLinks [] ([] ++ "new" :: rest) = _ :=
      hp.walk_absent (by decide) hnew (by decide) (by decide) rest
    rw [if_neg (by simpa using hrest)] at hwalk
    rw [List.nil_append] at hwalk
    rw [Tree.makeDir, Tree.find_names _ hroot hall, hwalk]
    rfl
  have hmake : (⟨[], []⟩ : Tree).makeDir ⟨"/", [] ++ ["new"]⟩ = .ok ⟨[], [(["new"], .dir)]⟩ :=
    Tree.makeDir_absent hp.toWellFormed hroot (by simpa using hnew) (by decide) (by decide) (by decide)
  have hfirst : (⟨[], []⟩ : Tree).makeDirs ⟨"/", ["new"]⟩ = ⟨⟨[], [(["new"], .dir)]⟩, none⟩ := Tree.makeDirs_of_ok hmake
  have hmake' := Tree.makeDir_long hp'.toWellFormed hroot hnames (by decide) hlong
  have hstays := Tree.unlessDir_long hp'.toWellFormed hroot hnames (by decide) hlong
  have hsecond : (⟨[], []⟩ : Tree).makeDirs ⟨"/", ["new"] ++ [name]⟩ =
      ⟨⟨[], [(["new"], .dir)]⟩, some (.onPath .nameTooLong (⟨"/", ["new", name]⟩ : Path).text)⟩ := by
    rw [Tree.makeDirs_of_noEntry (hmissing [name] (by simp) hnames) rfl, hfirst]
    simp only [hmake', hstays]
    rfl
  have hthird : (⟨[], []⟩ : Tree).makeDirs ⟨"/", (["new"] ++ [name]) ++ ["b"]⟩ = _ :=
    Tree.makeDirs_of_noEntry (hmissing [name, "b"] (by simp) hnames') rfl
  rw [hsecond] at hthird
  exact hthird

/-- So two runs tell different paths. -/
theorem errors_told :
    let run (t : Tree) := run t {} (.given [] {}) (some ⟨"/", ["new", name, "b"]⟩)
    let once := run ⟨[], []⟩
    once.2.1.report.exportErrors =
        [Export.Run.directoryError (.onPath .nameTooLong (⟨"/", ["new", name]⟩ : Path).text)] ∧
      (run once.1).2.1.report.exportErrors =
        [Export.Run.directoryError (.onPath .nameTooLong (⟨"/", ["new", name, "b"]⟩ : Path).text)] := by
  intro run once
  have hp : (⟨[], []⟩ : Tree).Plain := by decide +kernel
  have hp' : (⟨[], [(["new"], .dir)]⟩ : Tree).Plain := by decide +kernel
  have hends : endsWithValidation {} (full [] {}) = false := by decide +kernel
  have hnames : ∀ n ∈ ["new", name, "b"], IsName n := by simpa using ⟨by decide, hn, by decide⟩
  have hresolve : ∀ t : Tree, t.Plain → t.resolve ⟨"/", ["new", name, "b"]⟩ = .ok ⟨"/", ["new", name, "b"]⟩ := by
    intro t hp
    rw [resolve_noLinks hp.noLinks, Tree.hasNull_names hnames, if_neg Bool.false_ne_true, Tree.namedLocation,
      Tree.startOf_root t (by decide), Tree.plainLocation_of_not_mem (fun hm => (hnames _ hm).notHere rfl)
        (fun hm => (hnames _ hm).notUp rfl)]
    rfl
  obtain ⟨htree, herrors⟩ := run_of_trouble (hresolve _ hp) hends rfl (makeDirs_once hn hlong)
  refine ⟨herrors, ?_⟩
  rw [show once.1 = _ from htree]
  exact (run_of_trouble (hresolve _ hp') hends rfl (makeDirs_twice hn hlong)).2

theorem errors_differ (hquote : '\'' ∉ name.toList) :
    let run (t : Tree) := run t {} (.given [] {}) (some ⟨"/", ["new", name, "b"]⟩)
    let once := run ⟨[], []⟩
    once.2.1.report.exportErrors ≠ (run once.1).2.1.report.exportErrors := by
  intro run once heq
  obtain ⟨honce, hagain⟩ := errors_told hn hlong
  rw [show once.2.1.report.exportErrors = _ from honce, hagain] at heq
  exact directoryError_ne hquote (List.singleton_inj.mp heq)

end

theorem quote_not_mem_replicate (n : Nat) : '\'' ∉ (String.ofList (List.replicate n 'x')).toList := by
  simp

/-- A name that is too long for any entry. -/
def overlongName : String := String.ofList (List.replicate 256 'x')

end CrudQueries.Generation
