/-
  CrudQueries.Proofs.Export.Placement — where an export puts its files.

  Each file that is written goes to one place (`placement?`). An export clears, makes directories and
  puts files at places, one after the other (`placements`), and nothing else: a file that was there
  before is there afterwards with the same bytes exactly if the last placement at its place had these
  bytes or, if none was there, if clearing left it (`places_run`, `Places.file_iff`).
-/

import CrudQueries.Export.Run
import CrudQueries.Proofs.Files.Directory

namespace CrudQueries.Export

open CrudQueries.Files (Location Path Tree)
open CrudQueries.Files.Tree (AddsDirs IsDirectory IsEntryName addsDirs_makeDirs destination?_directory
  get?_put_file_ne_dir get?_put_ne get?_put_self makeDirs_directory replace_directory replace_isDirectory replace_ok
  write_ok)

/-- A place, and the bytes that are put there. -/
abbrev Placement := Location × ByteArray

/-- The bytes that were put at a place last. -/
def lastAt (placements : List Placement) (place : Location) : Option ByteArray :=
  (placements.reverse.find? fun p => p.1 == place).map (·.2)

theorem lastAt_append (ps qs : List Placement) (place : Location) :
    lastAt (ps ++ qs) place = (lastAt qs place).or (lastAt ps place) := by
  simp only [lastAt, List.reverse_append, List.find?_append]
  cases qs.reverse.find? fun p => p.1 == place <;> rfl

/-- The place and the bytes of one file, if it is written. -/
def placement? (t : Tree) (options : Options) (output : Path) (path content : String) : Option Placement :=
  let full := output.join (Path.ofText path)
  match (writeFile t options output path content).2.outcome with
  | .ok _ => ((t.makeDirs full.parent).tree.destination? (!options.atomic) full).map fun place =>
      (place, Text.Utf8.encode content)
  | .error _ => none

/-- The places and bytes of files that are written one after the other. -/
def placements (t : Tree) (options : Options) (output : Path) : List (String × String) → List Placement
  | [] => []
  | (path, content) :: rest =>
    let (t', w) := writeFile t options output path content
    (placement? t options output path content).toList ++
      match w.fault? with
      | some _ => []
      | none => placements t' options output rest

/-- `t'` is `t` with files put at places, and with directories added where nothing was. -/
structure Places (t t' : Tree) (ps : List Placement) : Prop where
  here : t'.here = t.here
  untouched : ∀ q, lastAt ps q = none →
    t'.get? q = t.get? q ∨ (t.get? q = none ∧ t'.get? q = some .dir)
  placed : ∀ q bytes, lastAt ps q = some bytes → t'.get? q = some (.file bytes)

theorem Places.nil {t t' : Tree} (h : AddsDirs t t') : Places t t' [] :=
  ⟨h.here, fun q _ => h.get? q, fun q bytes hq => by simp [lastAt] at hq⟩

theorem Places.append {t t' u : Tree} {ps qs : List Placement} (h : Places t t' ps) (h' : Places t' u qs) :
    Places t u (ps ++ qs) := by
  refine ⟨h'.here.trans h.here, fun q hq => ?_, fun q bytes hq => ?_⟩
  · rw [lastAt_append, Option.or_eq_none_iff] at hq
    rcases h.untouched q hq.2 with he | ⟨hn, hd⟩ <;> rcases h'.untouched q hq.1 with he' | ⟨hn', hd'⟩
    · exact Or.inl (he'.trans he)
    · exact Or.inr ⟨he ▸ hn', hd'⟩
    · exact Or.inr ⟨hn, he'.trans hd⟩
    · exact Or.inr ⟨hn, hd'⟩
  · rw [lastAt_append] at hq
    cases hl : lastAt qs q with
    | some b =>
      rw [hl, Option.some_or] at hq
      exact h'.placed q bytes (hl.trans hq)
    | none =>
      rw [hl, Option.none_or] at hq
      have hb := h.placed q bytes hq
      rcases h'.untouched q hl with he | ⟨hn, -⟩
      · rw [he, hb]
      · rw [hb] at hn; cases hn

/-- A file that is there stays with its bytes, unless others are put at its place. -/
theorem Places.file_iff {t t' : Tree} {ps : List Placement} (h : Places t t' ps) (q : Location) (bytes : ByteArray) :
    t'.get? q = some (.file bytes) ↔
      match lastAt ps q with
      | some b => b = bytes
      | none => t.get? q = some (.file bytes) := by
  cases hl : lastAt ps q with
  | some b =>
    rw [h.placed q b hl]
    simp
  | none =>
    rcases h.untouched q hl with he | ⟨hn, hd⟩
    · rw [he]
    · rw [hn, hd]; simp

/-! ## One file -/

theorem places_put (t : Tree) {place : Location} (h : place ≠ []) (bytes : ByteArray) :
    Places t (t.put place (.file bytes)) [(place, bytes)] := by
  refine ⟨rfl, fun q hq => ?_, fun q b hq => ?_⟩
  · have hne : q ≠ place := by rintro rfl; simp [lastAt] at hq
    exact Or.inl (get?_put_ne t hne _)
  · have he : place = q ∧ bytes = b := by simpa [lastAt] using hq
    obtain ⟨rfl, rfl⟩ := he
    exact get?_put_self t h _

theorem places_writeFile (t : Tree) (options : Options) (output : Path) (path content : String) :
    Places t (writeFile t options output path content).1 (placement? t options output path content).toList := by
  have hd := addsDirs_makeDirs t (output.join (Path.ofText path)).parent
  cases hm : (t.makeDirs (output.join (Path.ofText path)).parent).trouble with
  | some e =>
    simp only [placement?, writeFile, hm]
    exact Places.nil hd
  | none =>
    generalize hw : (if options.atomic then
      (t.makeDirs (output.join (Path.ofText path)).parent).tree.replace (output.join (Path.ofText path))
        (Text.Utf8.encode content)
      else (t.makeDirs (output.join (Path.ofText path)).parent).tree.write (output.join (Path.ofText path))
        (Text.Utf8.encode content)) = written
    cases written with
    | error e =>
      simp only [placement?, writeFile, hm, hw]
      exact Places.nil hd
    | ok u =>
      obtain ⟨place, hp, hne, rfl⟩ : ∃ place, (t.makeDirs (output.join (Path.ofText path)).parent).tree.destination?
          (!options.atomic) (output.join (Path.ofText path)) = some place ∧ place ≠ [] ∧
          u = (t.makeDirs (output.join (Path.ofText path)).parent).tree.put place
            (.file (Text.Utf8.encode content)) := by
        cases ha : options.atomic with
        | true => rw [ha] at hw; exact replace_ok hw
        | false => rw [ha] at hw; exact write_ok hw
      simp only [placement?, writeFile, hm, hw, hp, Option.map_some, Option.toList_some]
      exact (Places.nil hd).append (places_put _ hne _)

/-- A file in a directory that the output names directly, whichever path has its name. -/
theorem writeFile_named {t : Tree} {place : Location} {name path : String} (h : IsDirectory t place)
    (hn : IsEntryName name) (hp : Path.ofText path = ⟨"", [name]⟩) (hd : t.get? (place ++ [name]) ≠ some .dir)
    (options : Options) (ha : options.atomic = true) (content : String) :
    writeFile t options ⟨"/", place⟩ path content =
      (t.put (place ++ [name]) (.file (Text.Utf8.encode content)),
        ⟨path, .ok (.of path (⟨"/", place ++ [name]⟩ : Path).text content)⟩) := by
  have hf : (⟨"/", place⟩ : Path).join (Path.ofText path) = ⟨"/", place ++ [name]⟩ := by
    simp [hp, Path.join, Path.isAbsolute]
  have hparent : (⟨"/", place ++ [name]⟩ : Path).parent = ⟨"/", place⟩ := by simp [Path.parent]
  simp only [writeFile, hf, hparent, makeDirs_directory h, ha, if_true, replace_directory h hn hd]

theorem writeFile_directory {t : Tree} {place : Location} {name : String} (h : IsDirectory t place)
    (hn : IsEntryName name) (hd : t.get? (place ++ [name]) ≠ some .dir) (options : Options) (ha : options.atomic = true)
    (content : String) :
    writeFile t options ⟨"/", place⟩ name content =
      (t.put (place ++ [name]) (.file (Text.Utf8.encode content)),
        ⟨name, .ok (.of name (⟨"/", place ++ [name]⟩ : Path).text content)⟩) :=
  writeFile_named h hn hn.ofText hd options ha content

/-- Where a directory has the name of the file nothing is written. -/
theorem writeFile_taken {t : Tree} {place : Location} {name : String} (h : IsDirectory t place) (hn : IsEntryName name)
    (htaken : IsDirectory t (place ++ [name])) (options : Options) (ha : options.atomic = true) (content : String) :
    (writeFile t options ⟨"/", place⟩ name content).1 = t := by
  have hf : (⟨"/", place⟩ : Path).join (Path.ofText name) = ⟨"/", place ++ [name]⟩ := by
    simp [hn.ofText, Path.join, Path.isAbsolute]
  have hp : (⟨"/", place ++ [name]⟩ : Path).parent = ⟨"/", place⟩ := by simp [Path.parent]
  obtain ⟨e, hr⟩ := replace_isDirectory htaken (Text.Utf8.encode content)
  simp only [writeFile, hf, hp, makeDirs_directory h, ha, if_true, hr]

theorem placement?_directory {t : Tree} {place : Location} {name : String} (h : IsDirectory t place)
    (hn : IsEntryName name) (hd : t.get? (place ++ [name]) ≠ some .dir) (options : Options) (ha : options.atomic = true)
    (content : String) :
    placement? t options ⟨"/", place⟩ name content = some (place ++ [name], Text.Utf8.encode content) := by
  have hf : (⟨"/", place⟩ : Path).join (Path.ofText name) = ⟨"/", place ++ [name]⟩ := by
    simp [hn.ofText, Path.join, Path.isAbsolute]
  have hp : (⟨"/", place ++ [name]⟩ : Path).parent = ⟨"/", place⟩ := by simp [Path.parent]
  simp only [placement?, writeFile_directory h hn hd options ha, hf, hp, makeDirs_directory h, ha, Bool.not_true]
  rw [destination?_directory h hn]
  rfl

/-! ## All files -/

theorem places_writeFiles (options : Options) (output : Path) (files : List (String × String)) (t : Tree) :
    Places t (writeFiles t options output files).1 (placements t options output files) := by
  induction files generalizing t with
  | nil => exact Places.nil (AddsDirs.refl t)
  | cons file rest ih =>
    obtain ⟨path, content⟩ := file
    have h := places_writeFile t options output path content
    rw [writeFiles, placements]
    cases hw : writeFile t options output path content with
    | mk t' w =>
      rw [hw] at h
      cases hf : w.fault? with
      | some e => simpa [hf] using h
      | none => simpa [hf] using h.append (ih t')

/-- The tree after the output directory has been cleared, if that is asked for. -/
def cleaned (t : Tree) (options : Options) (output : Path) : Tree := (cleanOutput t options output).1

theorem cleaned_of_not_clean (t : Tree) {options : Options} (h : options.clean = false) (output : Path) :
    cleaned t options output = t := by
  simp [cleaned, cleanOutput, h]

/-- The inventory of files that were written. -/
def inventoryText (t : Tree) (settings : Settings) (options : Options) (output : Path) (written : List Written) :
    String :=
  ({ options, language := settings.language, output, cleaning := (cleanOutput t options output).2,
     files := written : Run }).inventory.text

/-- The places and bytes of an export: those of its files, then that of the inventory. -/
def exportPlacements (t : Tree) (settings : Settings) (options : Options) (output : Path)
    (files : List (String × String)) : List Placement :=
  let made := (cleaned t options output).makeDirs output
  match made.trouble with
  | some _ => []
  | none =>
    let (t', written) := writeFiles made.tree options output (byPath files)
    placements made.tree options output (byPath files) ++
      match written.findSome? (·.fault?) with
      | some _ => []
      | none =>
        if options.inventory then
          (placement? t' options output Inventory.fileName (inventoryText t settings options output written)).toList
        else []

/-- After clearing, an export only puts files at its places and adds directories. -/
theorem places_run (t : Tree) (settings : Settings) (options : Options) (output : Path)
    (files : List (String × String)) :
    Places (cleaned t options output) (run t settings options output files).1
      (exportPlacements t settings options output files) := by
  have hd := Places.nil (addsDirs_makeDirs (cleaned t options output) output)
  simp only [run, exportPlacements, inventoryText, cleaned] at hd ⊢
  cases hm : ((cleanOutput t options output).1.makeDirs output).trouble with
  | some e => exact hd
  | none =>
    have hf := hd.append (places_writeFiles options output (byPath files)
      ((cleanOutput t options output).1.makeDirs output).tree)
    cases hw : writeFiles ((cleanOutput t options output).1.makeDirs output).tree options output (byPath files) with
    | mk t' written =>
      rw [hw] at hf
      cases hx : written.findSome? (·.fault?) with
      | some e => simpa [hx] using hf
      | none =>
        cases hi : options.inventory with
        | false => simpa [hx, hi, writeInventory] using hf
        | true =>
          simp only [writeInventory, hi, if_true]
          exact hf.append (places_writeFile t' options output Inventory.fileName _)

/-- After a file in the output directory itself, the inventory is put there over any file of its name. -/
theorem lastAt_inventory {t : Tree} (settings : Settings) (options : Options) {place : Location} {name : String}
    (content : String) (hc : options.clean = false) (ha : options.atomic = true) (hi : options.inventory = true)
    (h : IsDirectory t place) (hn : IsEntryName name) (hd : t.get? (place ++ [name]) ≠ some .dir)
    (hd' : t.get? (place ++ [Inventory.fileName]) ≠ some .dir) :
    ∃ written, lastAt (exportPlacements t settings options ⟨"/", place⟩ [(name, content)])
        (place ++ [Inventory.fileName]) =
      some (Text.Utf8.encode (inventoryText t settings options ⟨"/", place⟩ written)) := by
  have hw := writeFile_directory h hn hd options ha content
  have hfault : (⟨name, .ok (.of name (⟨"/", place ++ [name]⟩ : Path).text content)⟩ : Written).fault? = none := rfl
  have hn' : IsEntryName Inventory.fileName := by decide
  have hput : (t.put (place ++ [name]) (.file (Text.Utf8.encode content))).get? (place ++ [Inventory.fileName]) ≠
      some .dir := get?_put_file_ne_dir (by simp) hd' _
  simp only [exportPlacements, cleaned_of_not_clean t hc, makeDirs_directory h, byPath, List.mergeSort_singleton,
    writeFiles, hw, hfault, List.findSome?_cons, List.findSome?_nil, hi, if_true,
    placement?_directory (h.put hd _) hn' hput options ha]
  refine ⟨[⟨name, .ok (.of name (⟨"/", place ++ [name]⟩ : Path).text content)⟩], ?_⟩
  rw [lastAt_append]
  simp only [lastAt, Option.toList_some, List.reverse_singleton, List.find?_cons, beq_self_eq_true, Option.map_some,
    Option.some_or]

end CrudQueries.Export
