/-
  CrudQueries.Proofs.Export.OneFile — what becomes of one file.

  In a well-formed tree, on a way without links, a file that stands on it keeps a path from being written
  (`writeFile_blocked`), and so does a directory on it with too long a name (`writeFile_long`). Otherwise the
  directories are made, and the file is replaced in the last of them unless its temporary file cannot be made or a
  directory has its name (`writeFile_made`). So nothing is written but the file itself and directories on its way
  (`writeFile_cases`).
-/

import CrudQueries.Export.Run
import CrudQueries.Proofs.Files.Named

namespace CrudQueries.Export

open CrudQueries.Files (Cause IsName Location Path Tree Trouble maxNameSize)
open CrudQueries.Files.Tree (DirsAlong IsFileAt Way madeAlong_makeDirs fits get?_nil lead lead_eq_self lead_isPrefix
  makeDirs_blocked replace_plain temporaryNameSize temporaryPath)

variable {t : Tree} {options : Options} {output : Path} {path : String} {place : Location} {name : String}

/-- A trouble on the way is one of the file. -/
theorem writeFile_of_trouble {e : Trouble} (content : String) (options : Options)
    (h : (t.makeDirs (output.join (Path.ofText path)).parent).trouble = some e) :
    writeFile t options output path content =
      ((t.makeDirs (output.join (Path.ofText path)).parent).tree, ⟨path, .error e⟩) := by
  simp only [writeFile, h]

theorem writeFile_of_replace {made : Tree} (content : String) (ha : options.atomic = true)
    (h : t.makeDirs (output.join (Path.ofText path)).parent = ⟨made, none⟩) :
    writeFile t options output path content =
      match made.replace (output.join (Path.ofText path)) (Text.Utf8.encode content) with
      | .ok u => (u, ⟨path, .ok (.of path (output.join (Path.ofText path)).text content)⟩)
      | .error e => (made, ⟨path, .error e⟩) := by
  cases hr : made.replace (output.join (Path.ofText path)) (Text.Utf8.encode content) <;>
    simp only [writeFile, h, ha, if_true, hr]

section writeFile

variable (hw : t.WellFormed) (h : IsFileAt (output.join (Path.ofText path)) place name) (content : String)
include hw h

/-- Past a file nothing is written, nor any directory made. -/
theorem writeFile_blocked (options : Options) (hb : t.Blocked place) :
    writeFile t options output path content =
      (t, ⟨path, .error (.onPath (if (t.get? place).isSome then .taken else .notDirectory)
        (output.join (Path.ofText path)).parent.text)⟩) := by
  obtain ⟨file, bytes, ⟨rest, rfl⟩, hfile⟩ := hb
  have hcause : (if (t.get? (file ++ rest)).isSome then Cause.taken else .notDirectory) =
      if rest.isEmpty then .taken else .notDirectory := by
    cases rest with
    | nil => simp [hfile]
    | cons n rest =>
      cases he : t.get? (file ++ n :: rest) with
      | none => rfl
      | some e =>
        have hdir := hw.dir_of_prefix he (List.prefix_append file _) (by simp)
        rw [hfile] at hdir
        cases hdir
  have hmake := makeDirs_blocked hw h.root h.parent_names hfile
  rw [← h.parent_eq] at hmake
  rw [hcause, writeFile_of_trouble content options (congrArg _ hmake), hmake]

/-- Where a directory on the way has too long a name the file is not written. -/
theorem writeFile_long (hway : Way t place) (options : Options) (hb : ¬ t.Blocked place) (hlong : ¬ ∀ n ∈ place, fits n = true) :
    ∃ text, writeFile t options output path content =
      ((t.makeDirs (output.join (Path.ofText path)).parent).tree, ⟨path, .error (.onPath .nameTooLong text)⟩) := by
  obtain ⟨-, -, hsome⟩ := madeAlong_makeDirs hw h.root hway h.parent_names hb
  obtain ⟨text, -, htext⟩ := hsome hlong
  rw [← h.parent_eq] at htext
  exact ⟨text, writeFile_of_trouble content options htext⟩

/-- Where all directories on the way can be made the file is replaced in the last of them. -/
theorem writeFile_made (hway : Way t place) (ha : options.atomic = true) (hb : ¬ t.Blocked place) (hfits : ∀ n ∈ place, fits n = true) :
    let full := output.join (Path.ofText path)
    let made := (t.makeDirs full.parent).tree
    DirsAlong t made place ∧ made.WellFormed ∧
      writeFile t options output path content =
        if temporaryNameSize name > maxNameSize then
          (made, ⟨path, .error (.onPath .nameTooLong (temporaryPath full).text)⟩)
        else if t.get? (place ++ [name]) = some .dir then
          (made, ⟨path, .error (.moving .isDirectory (temporaryPath full).text full.text)⟩)
        else
          (made.put (place ++ [name]) (.file (Text.Utf8.encode content)), ⟨path, .ok (.of path full.text content)⟩) := by
  intro full made
  obtain ⟨hdirs, hnone, -⟩ := madeAlong_makeDirs hw h.root hway h.parent_names hb
  rw [lead_eq_self hfits, ← h.parent_eq] at hdirs
  have htrouble : (t.makeDirs full.parent).trouble = none := by
    rw [h.parent_eq]
    exact hnone hfits
  have hmade : made.WellFormed := hw.dirsAlong hdirs fun n hn => ⟨h.parent_names n hn, hfits n hn⟩
  have hreplace := replace_plain hmade h (hdirs.on _ List.prefix_rfl) (Text.Utf8.encode content)
  rw [hdirs.off _ (Tree.not_append_isPrefix place name)] at hreplace
  refine ⟨hdirs, hmade, ?_⟩
  rw [writeFile_of_replace content ha (show t.makeDirs full.parent = ⟨made, none⟩ by rw [← htrouble]), hreplace]
  by_cases hlong : temporaryNameSize name > maxNameSize
  · simp only [hlong, if_true]
    rfl
  · by_cases hd : t.get? (place ++ [name]) = some .dir
    · simp only [hlong, hd, if_true, if_false]
      rfl
    · simp only [hlong, hd, if_false]
      rfl

/-- A file is written in the last of the directories on its way, or there is an error and at most some of these are
  made. -/
theorem writeFile_cases (hway : Way t place) (ha : options.atomic = true) :
    ∃ made names, DirsAlong t made names ∧ made.WellFormed ∧ names <+: place ∧
      ((∃ e, e.isSystem = true ∧ writeFile t options output path content = (made, ⟨path, .error e⟩)) ∨
        (names = place ∧ fits name = true ∧ made.get? (place ++ [name]) ≠ some .dir ∧
          writeFile t options output path content =
            (made.put (place ++ [name]) (.file (Text.Utf8.encode content)),
              ⟨path, .ok (.of path (output.join (Path.ofText path)).text content)⟩))) := by
  by_cases hb : t.Blocked place
  · exact ⟨t, [], .of_dir hw (get?_nil t), hw, List.nil_prefix, .inl ⟨_, rfl, writeFile_blocked hw h content options hb⟩⟩
  · by_cases hfits : ∀ n ∈ place, fits n = true
    · obtain ⟨hdirs, hmade, hwrite⟩ := writeFile_made hw h content hway ha hb hfits
      refine ⟨_, place, hdirs, hmade, List.prefix_rfl, ?_⟩
      split at hwrite
      · exact .inl ⟨_, rfl, hwrite⟩
      · rename_i hshort
        split at hwrite
        · exact .inl ⟨_, rfl, hwrite⟩
        · rename_i hfree
          rw [← hdirs.off _ (Tree.not_append_isPrefix place name)] at hfree
          exact .inr ⟨rfl, Tree.fits_of_temporaryNameSize hshort, hfree, hwrite⟩
    · obtain ⟨text, hwrite⟩ := writeFile_long hw h content hway options hb hfits
      obtain ⟨hdirs, -, -⟩ := madeAlong_makeDirs hw h.root hway h.parent_names hb
      rw [← h.parent_eq] at hdirs
      have hnames : ∀ n ∈ lead place, IsName n ∧ fits n = true := fun n hn =>
        ⟨h.parent_names n ((lead_isPrefix place).subset hn), Tree.fits_of_mem_lead hn⟩
      exact ⟨_, lead place, hdirs, hw.dirsAlong hdirs hnames, lead_isPrefix place, .inl ⟨_, rfl, hwrite⟩⟩

end writeFile

end CrudQueries.Export
