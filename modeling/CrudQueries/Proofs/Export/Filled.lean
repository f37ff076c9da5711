/-
  CrudQueries.Proofs.Export.Filled — where an export without errors has put its files.

  In a well-formed tree a file that is written comes where the names of its path say, if no link stands on the way
  (`filled_writeFile`); whether there are links elsewhere is all the same. So when all files of an export are written,
  they are at these places, and nothing else is new but the directories that lead to them (`Filled`,
  `filled_writeFiles`). The inventory is then written too, unless a directory has its name (`filled_run`).
-/

import CrudQueries.Proofs.Export.EachFile

namespace CrudQueries.Export

open CrudQueries.Files (Location Path Tree)
open CrudQueries.Files.Tree (IsFileAt temporaryNameSize)

variable {t s u : Tree} {options : Options} {output out : Path} {files : List (String × String)} {ps qs : List Placement}
  {place : Location} {name path : String}

/-! ## Places that are filled -/

/-- `u` is `t` with files put at places, with the directories that lead to them, and with nothing else. -/
structure Filled (t u : Tree) (ps : List Placement) : Prop extends Puts t u ps where
  wellFormed : u.WellFormed
  ways : ∀ q, t.get? q = none → u.get? q = some .dir → ∃ p ∈ ps, q <+: p.1 ∧ q ≠ p.1

theorem Filled.nil (hw : t.WellFormed) : Filled t t [] where
  toPuts := Puts.nil (.refl t)
  wellFormed := hw
  ways q hnone hdir := by
    rw [hnone] at hdir
    cases hdir

theorem Filled.append (h : Filled t s ps) (h' : Filled s u qs) : Filled t u (ps ++ qs) where
  toPuts := h.toPuts.append h'.toPuts
  wellFormed := h'.wellFormed
  ways q hnone hdir := by
    have hlater : s.get? q = none → ∃ p ∈ ps ++ qs, q <+: p.1 ∧ q ≠ p.1 := by
      intro hs
      obtain ⟨p, hp, hway⟩ := h'.ways q hs hdir
      exact ⟨p, List.mem_append_right ps hp, hway⟩
    have hlast : lastAt qs q = none := by
      rw [Option.eq_none_iff_forall_ne_some]
      intro bytes hl
      rw [h'.placed q bytes hl] at hdir
      cases hdir
    rcases h'.untouched q hlast with hsame | ⟨hs, -⟩
    · obtain ⟨p, hp, hway⟩ := h.ways q hnone (hsame ▸ hdir)
      exact ⟨p, List.mem_append_left qs hp, hway⟩
    · exact hlater hs

/-- Where no link stood on a way none does. -/
theorem Puts.linkFree (h : Puts t u ps) {names : Location} (hl : t.LinkFree names) : u.LinkFree names :=
  fun q hq target => h.not_link (hl q hq target)

/-! ## Files -/

/-- The place of a file below the output directory, and its bytes. -/
def placementOf (output : Path) (f : String × String) : Placement := (location output f.1, Text.Utf8.encode f.2)

/-- A file that is written comes where the names of its path say. -/
theorem filled_writeFile (ha : options.atomic = true) (hw : t.WellFormed) (content : String)
    (h : IsFileAt (output.join (Path.ofText path)) place name) (hl : t.LinkFree place)
    (hok : ∃ record, (writeFile t options output path content).2.outcome = .ok record) :
    Filled t (writeFile t options output path content).1 [placementOf output (path, content)] := by
  have hplacement : placementOf output (path, content) = (place ++ [name], Text.Utf8.encode content) :=
    congrArg (·, Text.Utf8.encode content) h.parts
  rw [hplacement]
  obtain ⟨record, hok⟩ := hok
  obtain ⟨made, names, hdirs, hmade, -, ⟨e, -, hwrite⟩ | ⟨rfl, hfits, hfree, hwrite⟩⟩ :=
    writeFile_cases hw h content hl.way ha
  · rw [hwrite] at hok
    cases hok
  · have hdir := hdirs.on _ List.prefix_rfl
    rw [hwrite]
    refine ⟨(Puts.nil hdirs.toAddsDirs).append (puts_put hfree _), hmade.put hdir h.isName hfits hfree _, fun q hnone hq => ?_⟩
    have hne : q ≠ names ++ [name] := by
      rintro rfl
      rw [Tree.get?_put_self _ (by simp)] at hq
      cases hq
    rw [Tree.get?_put_ne _ hne] at hq
    rcases new_on_way hdirs List.prefix_rfl name q with hsame | ⟨-, -, hway⟩
    · rw [hsame, hnone] at hq
      cases hq
    · exact ⟨_, List.mem_singleton_self _, hway⟩

/-- So do all files, if all are written. -/
theorem filled_writeFiles (ha : options.atomic = true) (files : List (String × String)) (hw : t.WellFormed)
    (hfiles : ∀ f ∈ files, ∃ place name, IsFileAt (output.join (Path.ofText f.1)) place name ∧ t.LinkFree place)
    (hok : ∀ w ∈ (writeFiles t options output files).2, ∃ record, w.outcome = .ok record) :
    Filled t (writeFiles t options output files).1 (files.map (placementOf output)) := by
  induction files generalizing t with
  | nil => exact Filled.nil hw
  | cons f rest ih =>
    obtain ⟨path, content⟩ := f
    obtain ⟨place, name, h, hl⟩ := hfiles _ List.mem_cons_self
    have hone : ∃ record, (writeFile t options output path content).2.outcome = .ok record := by
      cases hf : (writeFile t options output path content).2.fault? with
      | some e =>
        rw [(writeFiles_cons_fault rest hf).1] at hok
        exact hok _ (List.mem_singleton_self _)
      | none =>
        rw [(writeFiles_cons rest hf).1] at hok
        exact hok _ List.mem_cons_self
    have hfilled := filled_writeFile ha hw content h hl hone
    obtain ⟨record, hrecord⟩ := hone
    have hnofault : (writeFile t options output path content).2.fault? = none := fault?_of_ok hrecord
    have hcons := (writeFiles_cons rest hnofault).1
    rw [hcons] at hok ⊢
    refine hfilled.append (ih hfilled.wellFormed (fun g hg => ?_) fun w hw => hok w (List.mem_cons_of_mem _ hw))
    obtain ⟨place', name', h', hl'⟩ := hfiles g (List.mem_cons_of_mem _ hg)
    exact ⟨place', name', h', hfilled.toPuts.linkFree hl'⟩

/-! ## A whole export -/

/-- In a directory a file is written if its name has room for that of a temporary file and is no directory's. -/
theorem written_in_directory (ha : options.atomic = true) (hw : t.WellFormed) (content : String)
    (h : IsFileAt (output.join (Path.ofText path)) place name) (hdir : t.get? place = some .dir)
    (hshort : ¬ temporaryNameSize name > Files.maxNameSize) (hfree : t.get? (place ++ [name]) ≠ some .dir) :
    ∃ record, (writeFile t options output path content).2.outcome = .ok record := by
  have hblocked : ¬ t.Blocked place := by
    rintro ⟨file, bytes, hway, hfile⟩
    by_cases hsame : file = place
    · rw [hsame, hdir] at hfile
      cases hfile
    · rw [hw.dir_of_prefix hdir hway hsame] at hfile
      cases hfile
  obtain ⟨-, -, hwrite⟩ := writeFile_made hw h content (.there hdir) ha hblocked fun n hn => (hw.fits_of_get? hdir n hn).2
  rw [if_neg hshort, if_neg hfree] at hwrite
  exact ⟨_, by rw [hwrite]⟩

/-- An export that succeeds puts its files and its inventory at their places in the output directory, if no link stands
  on the ways and nothing at the place of the inventory. -/
theorem filled_run (settings : Settings) (ha : options.atomic = true) (hs : Succeeded t options out files)
    (hw : ((cleaned t options out).makeDirs out).tree.WellFormed)
    (hdir : ((cleaned t options out).makeDirs out).tree.get? out.parts = some .dir)
    (hfiles : ∀ f ∈ files, ∃ place name, IsFileAt (out.join (Path.ofText f.1)) place name ∧
      ((cleaned t options out).makeDirs out).tree.LinkFree place)
    (hinventory : IsFileAt (out.join (Path.ofText Inventory.fileName)) out.parts Inventory.fileName)
    (hfree : ((cleaned t options out).makeDirs out).tree.get? (location out Inventory.fileName) = none)
    (hapart : ∀ f ∈ files, ¬ location out Inventory.fileName <+: location out f.1) :
    let done := run t settings options out files
    Filled ((cleaned t options out).makeDirs out).tree done.1
      ((byPath files ++ inventoryEntry options done.2.inventory.text).map (placementOf out)) := by
  intro done
  have hbefore : Filled ((cleaned t options out).makeDirs out).tree (filesWritten t options out files).1
      ((byPath files).map (placementOf out)) :=
    filled_writeFiles ha (byPath files) hw (fun f hf => hfiles f (mem_byPath.mp hf)) hs.written
  have hrun : done = _ := hs.run_eq
  rw [List.map_append]
  cases hi : options.inventory with
  | false =>
    rw [writeInventory, if_neg (by simp [runBefore, hi])] at hrun
    rw [hrun, inventoryEntry, if_neg (by simp [hi]), List.map_nil, List.append_nil]
    exact hbefore
  | true =>
    rw [writeInventory_eq hi] at hrun
    have hdir' := hbefore.dirs _ hdir
    -- A directory in the place of the inventory would be on the way to a file.
    have hfree' : (filesWritten t options out files).1.get? (out.parts ++ [Inventory.fileName]) ≠ some .dir := by
      rw [show out.parts ++ [Inventory.fileName] = location out Inventory.fileName from hinventory.parts.symm]
      intro hd
      obtain ⟨p, hp, hway, -⟩ := hbefore.ways _ hfree hd
      obtain ⟨f, hf, rfl⟩ := List.mem_map.mp hp
      exact hapart f (mem_byPath.mp hf) hway
    have htext : done.2.inventory.text =
        (runBefore t settings options out (filesWritten t options out files).2).inventory.text := by
      rw [hrun]
      rfl
    rw [inventoryEntry, if_pos hi, htext, hrun]
    exact hbefore.append (filled_writeFile ha hbefore.wellFormed _ hinventory (hbefore.wellFormed.linkFree hdir')
      (written_in_directory ha hbefore.wellFormed _ hinventory hdir' (by decide) hfree'))

end CrudQueries.Export
