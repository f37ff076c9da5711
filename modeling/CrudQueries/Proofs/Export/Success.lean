/-
  CrudQueries.Proofs.Export.Success — what an export without errors leaves.

  Every file was then put where its path led at that moment (`Landed`). It is read there afterwards if
  its bytes were the last put at the place, and no file was put in the place of a link on the way
  (`Landed.read`); in a tree without links the place is the one that the path names (`Landed.named`).
  The inventory has one record for each file (`Succeeded.inventory_files`) and is itself put last of all,
  or the export has a warning (`Succeeded.inventory_landed`).
-/

import CrudQueries.Proofs.Export.Placement
import CrudQueries.Proofs.Files.Leading

namespace CrudQueries.Export

open CrudQueries.Files (Location Path Place Tree)
open CrudQueries.Files.Tree (AddsDirs NoLinks addsDirs_makeDirs find_eq_ok get?_nil get?_put_ne link_of_linksPassed read_passes
  replace_leads startOf_of_here walk_noLinks)

variable {t t' u moment : Tree} {ps qs : List Placement} {place : Location} {bytes : ByteArray} {p : Path}

/-! ## Changes that keep directories -/

/-- `u` is `t` with files put at places, none of them a directory's. -/
structure Puts (t u : Tree) (ps : List Placement) : Prop extends Places t u ps where
  dirs : ∀ q, t.get? q = some .dir → u.get? q = some .dir

theorem Puts.nil (h : AddsDirs t u) : Puts t u [] := by
  refine ⟨Places.nil h, ?_⟩
  intro q hq
  exact h.keeps hq

theorem Puts.append (h : Puts t t' ps) (h' : Puts t' u qs) : Puts t u (ps ++ qs) := by
  refine ⟨h.toPlaces.append h'.toPlaces, ?_⟩
  intro q hq
  exact h'.dirs q (h.dirs q hq)

theorem puts_put (hd : t.get? place ≠ some .dir) (bytes : ByteArray) :
    Puts t (t.put place (.file bytes)) [(place, bytes)] := by
  have hne : place ≠ [] := by
    rintro rfl
    exact hd (get?_nil t)
  refine ⟨places_put t hne bytes, ?_⟩
  intro q hq
  by_cases he : q = place
  · subst he
    exact absurd hq hd
  · rw [get?_put_ne t he, hq]

/-- Putting files makes no links. -/
theorem Places.not_link (h : Places t t' ps) {q : Location} {target : String} (hq : t.get? q ≠ some (.link target)) :
    t'.get? q ≠ some (.link target) := by
  cases hl : lastAt ps q with
  | some bytes =>
    rw [h.placed q bytes hl]
    nofun
  | none =>
    rcases h.untouched q hl with he | ⟨-, hd⟩
    · rwa [he]
    · rw [hd]
      nofun

theorem noLinks_later (h : Places t t' ps) (hn : NoLinks t) : NoLinks t' := fun q target => h.not_link (hn q target)

theorem namedLocation_later (h : Places t t' ps) (p : Path) : t'.namedLocation p = t.namedLocation p := by
  unfold Tree.namedLocation
  rw [startOf_of_here h.here]

theorem lastAt_of_mem (h : (place, bytes) ∈ ps) : ∃ last, lastAt ps place = some last := by
  have hsome : (ps.reverse.find? fun p => p.1 == place).isSome := by
    rw [List.find?_isSome]
    exact ⟨_, List.mem_reverse.mpr h, by simp⟩
  obtain ⟨p, hp⟩ := Option.isSome_iff_exists.mp hsome
  exact ⟨p.2, by rw [lastAt, hp]; rfl⟩

theorem mem_of_lastAt (h : lastAt ps place = some bytes) : (place, bytes) ∈ ps := by
  exact List.mem_reverse.mp (Data.Entries.mem_of_get? h)

/-! ## Files at their places -/

/-- On the way from `t` to `u` the bytes are put where the path leads at a moment, which is a place with
  no directory. -/
structure Landed (t u : Tree) (ps : List Placement) (p : Path) (bytes : ByteArray) (moment : Tree) (place : Location) :
    Prop where
  leads : ∃ w : Place, moment.find false p = .ok w ∧ w.location = place ∧ ∀ q, w ≠ .found q .dir
  between : ∃ earlier later, ps = earlier ++ (place, bytes) :: later ∧ Puts t moment earlier ∧
    Puts moment u ((place, bytes) :: later)

theorem Landed.before (h : Landed t' u ps p bytes moment place) (hq : Puts t t' qs) :
    Landed t u (qs ++ ps) p bytes moment place := by
  obtain ⟨earlier, later, rfl, he, hl⟩ := h.between
  exact ⟨h.leads, qs ++ earlier, later, (List.append_assoc ..).symm, hq.append he, hl⟩

theorem Landed.after (h : Landed t t' ps p bytes moment place) (hq : Puts t' u qs) :
    Landed t u (ps ++ qs) p bytes moment place := by
  obtain ⟨earlier, later, rfl, he, hl⟩ := h.between
  exact ⟨h.leads, earlier, later ++ qs, by simp, he, by simpa using hl.append hq⟩

theorem Landed.mem (h : Landed t u ps p bytes moment place) : (place, bytes) ∈ ps := by
  obtain ⟨earlier, later, rfl, -, -⟩ := h.between
  exact List.mem_append_right _ List.mem_cons_self

/-- What is put last at the place is read, unless a file took the place of a link on the way. -/
theorem Landed.read (h : Landed t u ps p bytes moment place) (hlinks : ∀ q ∈ ps, q.1 ∉ moment.linksTo p)
    (hlast : lastAt ps place = some bytes) : u.read p = .ok bytes := by
  obtain ⟨w, hfind, rfl, hend⟩ := h.leads
  obtain ⟨earlier, later, rfl, -, hputs⟩ := h.between
  have hplaced : lastAt ((w.location, bytes) :: later) w.location = some bytes := by
    obtain ⟨last, hl⟩ := lastAt_of_mem (List.mem_cons_self (a := (w.location, bytes)) (l := later))
    rw [lastAt_append, hl, Option.some_or] at hlast
    rw [hl, hlast]
  have hkept : ∀ q ∈ moment.linksTo p, ∀ e, moment.get? q = some e → u.get? q = some e := by
    intro q hq e he
    have hnone : lastAt ((w.location, bytes) :: later) q = none := by
      rw [Option.eq_none_iff_forall_ne_some]
      intro last hl
      exact hlinks _ (List.mem_append_right _ (mem_of_lastAt hl)) hq
    rcases hputs.untouched q hnone with hu | ⟨hn, -⟩
    · rw [hu, he]
    · rw [hn] at he
      cases he
  exact read_passes hputs.here hputs.dirs hkept hfind hend (hputs.placed _ _ hplaced)

theorem Landed.named (h : Landed t u ps p bytes moment place) (hn : NoLinks t) : place = t.namedLocation p := by
  obtain ⟨w, hfind, rfl, -⟩ := h.leads
  obtain ⟨earlier, later, -, he, -⟩ := h.between
  rw [← namedLocation_later he.toPlaces]
  exact walk_noLinks (noLinks_later he.toPlaces hn) (find_eq_ok.mp hfind).2

theorem Landed.linksTo_noLinks (h : Landed t u ps p bytes moment place) (hn : NoLinks t) (q : Location) :
    q ∉ moment.linksTo p := by
  obtain ⟨earlier, later, -, he, -⟩ := h.between
  intro hq
  obtain ⟨target, hl⟩ := link_of_linksPassed hq
  exact noLinks_later he.toPlaces hn q target hl

/-! ## One file -/

variable {options : Options} {output : Path} {path content : String}

/-- A file that is written has the record of its content, and was put where its path leads. -/
theorem writeFile_ok (ha : options.atomic = true) {record : FileRecord}
    (h : (writeFile t options output path content).2.outcome = .ok record) :
    (writeFile t options output path content).2 =
        ⟨path, .ok (.of path (output.join (Path.ofText path)).text content)⟩ ∧
      ∃ moment place, placement? t options output path content = some (place, Text.Utf8.encode content) ∧
        Landed t (writeFile t options output path content).1 [(place, Text.Utf8.encode content)]
          (output.join (Path.ofText path)) (Text.Utf8.encode content) moment place := by
  have hdirs := addsDirs_makeDirs t (output.join (Path.ofText path)).parent
  cases hm : (t.makeDirs (output.join (Path.ofText path)).parent).trouble with
  | some e => simp [writeFile, hm] at h
  | none =>
    cases hr : (t.makeDirs (output.join (Path.ofText path)).parent).tree.replace (output.join (Path.ofText path))
        (Text.Utf8.encode content) with
    | error e => simp [writeFile, hm, ha, hr] at h
    | ok t' =>
      obtain ⟨w, hfind, hend, hnodir, hd, rfl⟩ := replace_leads hr
      have hwritten : writeFile t options output path content =
          ((t.makeDirs (output.join (Path.ofText path)).parent).tree.put w.location (.file (Text.Utf8.encode content)),
            ⟨path, .ok (.of path (output.join (Path.ofText path)).text content)⟩) := by
        simp [writeFile, hm, ha, hr]
      refine ⟨by rw [hwritten], _, w.location, ?_, ⟨w, hfind, rfl, hend⟩, [], [], rfl, Puts.nil hdirs, ?_⟩
      · simp only [placement?, hwritten, ha, Bool.not_true, hd, Option.map_some]
      · rw [hwritten]
        exact puts_put hnodir _

theorem puts_writeFile (ha : options.atomic = true) (t : Tree) (output : Path) (path content : String) :
    Puts t (writeFile t options output path content).1 (placement? t options output path content).toList := by
  cases ho : (writeFile t options output path content).2.outcome with
  | ok record =>
    obtain ⟨-, moment, place, hp, hl⟩ := writeFile_ok ha ho
    obtain ⟨earlier, later, hps, he, hputs⟩ := hl.between
    rw [hp, Option.toList_some, hps]
    exact he.append hputs
  | error e =>
    refine ⟨places_writeFile t options output path content, ?_⟩
    -- A file that fails leaves nothing but the directories on its way.
    have ht : (writeFile t options output path content).1 =
        (t.makeDirs (output.join (Path.ofText path)).parent).tree := by
      unfold writeFile at ho ⊢
      simp only at ho ⊢
      split
      · rfl
      · rename_i hm
        rw [hm] at ho
        simp only at ho
        split
        · rename_i hr
          rw [hr] at ho
          cases ho
        · rfl
    intro q hq
    rw [ht]
    exact (addsDirs_makeDirs t _).keeps hq

theorem landed_of_placement? (ha : options.atomic = true) {placement : Placement}
    (h : placement? t options output path content = some placement) :
    placement.2 = Text.Utf8.encode content ∧
      ∃ moment, Landed t (writeFile t options output path content).1 [placement] (output.join (Path.ofText path))
        (Text.Utf8.encode content) moment placement.1 := by
  cases ho : (writeFile t options output path content).2.outcome with
  | error e =>
    simp only [placement?, ho] at h
    cases h
  | ok record =>
    obtain ⟨-, moment, place, hp, hl⟩ := writeFile_ok ha ho
    obtain rfl : (place, _) = placement := Option.some.inj (hp.symm.trans h)
    exact ⟨rfl, moment, hl⟩

/-! ## All files -/

theorem fault?_of_ok {w : Written} {record : FileRecord} (h : w.outcome = .ok record) : w.fault? = none := by
  unfold Written.fault?
  rw [h]

variable (rest : List (String × String))

/-- After a file that meets no fault the others are written. -/
theorem writeFiles_cons (h : (writeFile t options output path content).2.fault? = none) :
    writeFiles t options output ((path, content) :: rest) =
        ((writeFiles (writeFile t options output path content).1 options output rest).1,
          (writeFile t options output path content).2 ::
            (writeFiles (writeFile t options output path content).1 options output rest).2) ∧
      placements t options output ((path, content) :: rest) =
        (placement? t options output path content).toList ++
          placements (writeFile t options output path content).1 options output rest := by
  rw [writeFiles, placements]
  generalize writeFile t options output path content = done at h ⊢
  obtain ⟨t', w⟩ := done
  simp only at h ⊢
  rw [h]
  exact ⟨rfl, rfl⟩

/-- After a fault none is. -/
theorem writeFiles_cons_fault {e : Files.Trouble} (h : (writeFile t options output path content).2.fault? = some e) :
    writeFiles t options output ((path, content) :: rest) =
        ((writeFile t options output path content).1, [(writeFile t options output path content).2]) ∧
      placements t options output ((path, content) :: rest) = (placement? t options output path content).toList := by
  rw [writeFiles, placements]
  generalize writeFile t options output path content = done at h ⊢
  obtain ⟨t', w⟩ := done
  simp only at h ⊢
  rw [h]
  exact ⟨rfl, List.append_nil _⟩

theorem puts_writeFiles (ha : options.atomic = true) (output : Path) (files : List (String × String)) (t : Tree) :
    Puts t (writeFiles t options output files).1 (placements t options output files) := by
  induction files generalizing t with
  | nil => exact Puts.nil (AddsDirs.refl t)
  | cons file rest ih =>
    obtain ⟨path, content⟩ := file
    cases hf : (writeFile t options output path content).2.fault? with
    | some e =>
      obtain ⟨hw, hp⟩ := writeFiles_cons_fault rest hf
      rw [hw, hp]
      exact puts_writeFile ha t output path content
    | none =>
      obtain ⟨hw, hp⟩ := writeFiles_cons rest hf
      rw [hw, hp]
      exact (puts_writeFile ha t output path content).append (ih _)

/-- Without errors every file has its record, and was put where its path led. -/
theorem landed_writeFiles (ha : options.atomic = true) (files : List (String × String)) (t : Tree)
    (hok : ∀ w ∈ (writeFiles t options output files).2, ∃ record, w.outcome = .ok record) :
    (writeFiles t options output files).2 =
        files.map (fun f => ⟨f.1, .ok (.of f.1 (output.join (Path.ofText f.1)).text f.2)⟩) ∧
      ∀ f ∈ files, ∃ moment place, Landed t (writeFiles t options output files).1 (placements t options output files)
        (output.join (Path.ofText f.1)) (Text.Utf8.encode f.2) moment place := by
  induction files generalizing t with
  | nil => exact ⟨rfl, by simp⟩
  | cons file rest ih =>
    obtain ⟨path, content⟩ := file
    have hputs := puts_writeFile ha t output path content
    cases hf : (writeFile t options output path content).2.fault? with
    | some e =>
      rw [(writeFiles_cons_fault rest hf).1] at hok
      obtain ⟨record, ho⟩ := hok _ (List.mem_singleton_self _)
      rw [fault?_of_ok ho] at hf
      cases hf
    | none =>
      obtain ⟨hw, hp⟩ := writeFiles_cons rest hf
      rw [hw] at hok ⊢
      rw [hp]
      obtain ⟨record, ho⟩ := hok _ List.mem_cons_self
      obtain ⟨hrecord, moment, place, hplace, hl⟩ := writeFile_ok ha ho
      obtain ⟨hwritten, hlanded⟩ := ih _ fun w hw => hok w (List.mem_cons_of_mem _ hw)
      refine ⟨?_, ?_⟩
      · rw [hwritten, List.map_cons, hrecord]
      · intro f hmem
        rcases List.mem_cons.mp hmem with rfl | hmem
        · rw [hplace]
          exact ⟨moment, place, hl.after (puts_writeFiles ha output rest _)⟩
        · obtain ⟨moment, place, hl⟩ := hlanded f hmem
          exact ⟨moment, place, hl.before hputs⟩

/-- Without links every place is the one that the path of a file names. -/
theorem placements_named (ha : options.atomic = true) (files : List (String × String)) (t : Tree) (hn : NoLinks t) :
    ∀ p ∈ placements t options output files,
      ∃ f ∈ files, p = (t.namedLocation (output.join (Path.ofText f.1)), Text.Utf8.encode f.2) := by
  induction files generalizing t with
  | nil => simp [placements]
  | cons file rest ih =>
    obtain ⟨path, content⟩ := file
    intro p hmem
    have hfirst : p ∈ (placement? t options output path content).toList →
        p = (t.namedLocation (output.join (Path.ofText path)), Text.Utf8.encode content) := by
      intro hmem
      obtain ⟨hbytes, moment, hl⟩ := landed_of_placement? ha (Option.mem_toList.mp hmem)
      exact Prod.ext (hl.named hn) hbytes
    cases hf : (writeFile t options output path content).2.fault? with
    | some e =>
      rw [(writeFiles_cons_fault rest hf).2] at hmem
      exact ⟨_, List.mem_cons_self, hfirst hmem⟩
    | none =>
      rw [(writeFiles_cons rest hf).2] at hmem
      rcases List.mem_append.mp hmem with hmem | hmem
      · exact ⟨_, List.mem_cons_self, hfirst hmem⟩
      · have hplaces := places_writeFile t options output path content
        obtain ⟨f, hfile, he⟩ := ih _ (noLinks_later hplaces hn) p hmem
        rw [namedLocation_later hplaces] at he
        exact ⟨f, List.mem_cons_of_mem _ hfile, he⟩

/-! ## A whole export -/

variable {settings : Settings} {files : List (String × String)}

/-- The files of an export, once the output directory is there. -/
def filesWritten (t : Tree) (options : Options) (output : Path) (files : List (String × String)) : Tree × List Written :=
  writeFiles ((cleaned t options output).makeDirs output).tree options output (byPath files)

/-- The output directory was there or made, and every file was written. -/
structure Succeeded (t : Tree) (options : Options) (output : Path) (files : List (String × String)) : Prop where
  made : ((cleaned t options output).makeDirs output).trouble = none
  written : ∀ w ∈ (filesWritten t options output files).2, ∃ record, w.outcome = .ok record

/-- What an export comes to before its inventory. -/
def runBefore (t : Tree) (settings : Settings) (options : Options) (output : Path) (written : List Written) : Run :=
  { options, language := settings.language, output, cleaning := (cleanOutput t options output).2, files := written }

theorem error?_eq_none {w : Written} : Run.Written.error? w = none ↔ ∃ record, w.outcome = .ok record := by
  unfold Run.Written.error?
  cases w.outcome <;> simp

/-- An export whose directory is there writes its files, and its inventory unless they met a fault. -/
theorem run_eq (hm : ((cleaned t options output).makeDirs output).trouble = none) :
    run t settings options output files =
      match (filesWritten t options output files).2.findSome? (·.fault?) with
      | some e => ((filesWritten t options output files).1,
        { runBefore t settings options output (filesWritten t options output files).2 with fault := some e })
      | none => writeInventory (filesWritten t options output files).1
        (runBefore t settings options output (filesWritten t options output files).2) := by
  unfold run filesWritten runBefore
  unfold cleaned at hm ⊢
  generalize cleanOutput t options output = clean at hm ⊢
  obtain ⟨t', cleaning⟩ := clean
  simp only at hm ⊢
  generalize t'.makeDirs output = made at hm ⊢
  obtain ⟨tree, trouble⟩ := made
  obtain rfl : trouble = none := hm
  generalize writeFiles tree options output (byPath files) = done
  obtain ⟨u, written⟩ := done
  rfl

/-- Without its directory an export writes nothing. -/
theorem run_of_trouble (settings : Settings) {e : Files.Trouble}
    (hm : ((cleaned t options output).makeDirs output).trouble = some e) :
    run t settings options output files =
      (((cleaned t options output).makeDirs output).tree,
        { options, language := settings.language, output, cleaning := (cleanOutput t options output).2,
          noDirectory := some e }) := by
  unfold run
  unfold cleaned at hm ⊢
  simp only [hm]

theorem errors_writeInventory (t : Tree) (r : Run) : (writeInventory t r).2.errors = r.errors := by
  unfold writeInventory
  split <;> rfl

theorem succeeded_of_errors (h : (run t settings options output files).2.errors = []) :
    Succeeded t options output files := by
  cases hm : ((cleaned t options output).makeDirs output).trouble with
  | some e =>
    unfold run at h
    unfold cleaned at hm
    simp [hm, Run.errors] at h
  | none =>
    refine ⟨hm, ?_⟩
    have herrors : (filesWritten t options output files).2.filterMap Run.Written.error? = [] := by
      rw [run_eq hm] at h
      split at h
      · exact (List.append_eq_nil_iff.mp h).1
      · rw [errors_writeInventory] at h
        exact (List.append_eq_nil_iff.mp h).1
    intro w hw
    exact error?_eq_none.mp (List.filterMap_eq_nil_iff.mp herrors w hw)

theorem Succeeded.noFault (h : Succeeded t options output files) :
    (filesWritten t options output files).2.findSome? (·.fault?) = none := by
  rw [List.findSome?_eq_none_iff]
  intro w hw
  obtain ⟨record, ho⟩ := h.written w hw
  exact fault?_of_ok ho

theorem Succeeded.run_eq (h : Succeeded t options output files) :
    run t settings options output files =
      writeInventory (filesWritten t options output files).1
        (runBefore t settings options output (filesWritten t options output files).2) := by
  rw [Export.run_eq h.made, h.noFault]

/-- An export that succeeds meets no error, whatever becomes of its inventory. -/
theorem Succeeded.noErrors (settings : Settings) (h : Succeeded t options output files) :
    (run t settings options output files).2.errors = [] ∧ (run t settings options output files).2.fault = none := by
  have herrors : (filesWritten t options output files).2.filterMap Run.Written.error? = [] := by
    rw [List.filterMap_eq_nil_iff]
    intro w hw
    exact error?_eq_none.mpr (h.written w hw)
  rw [h.run_eq, errors_writeInventory]
  constructor
  · unfold Run.errors runBefore
    rw [herrors]
    rfl
  · unfold writeInventory
    split <;> rfl

theorem writeInventory_eq {r : Run} (hi : r.options.inventory = true) (t : Tree) :
    writeInventory t r = ((writeFile t r.options r.output Inventory.fileName r.inventory.text).1,
      { r with inventoryFile := some (writeFile t r.options r.output Inventory.fileName r.inventory.text).2.outcome }) := by
  unfold writeInventory
  rw [if_pos hi]

/-- The placements of an export: those of its files, and that of its inventory. -/
theorem exportPlacements_of_made (hm : ((cleaned t options output).makeDirs output).trouble = none)
    (hf : (filesWritten t options output files).2.findSome? (·.fault?) = none) :
    exportPlacements t settings options output files =
      placements ((cleaned t options output).makeDirs output).tree options output (byPath files) ++
        if options.inventory then
          (placement? (filesWritten t options output files).1 options output Inventory.fileName
            (runBefore t settings options output (filesWritten t options output files).2).inventory.text).toList
        else [] := by
  unfold exportPlacements
  unfold filesWritten at hf ⊢
  simp only [hm, hf]
  rfl

/-- The placements of a successful export: those of its files, and that of its inventory if it was written. -/
theorem Succeeded.placements_eq (h : Succeeded t options output files) :
    exportPlacements t settings options output files =
      placements ((cleaned t options output).makeDirs output).tree options output (byPath files) ++
        if options.inventory then
          (placement? (filesWritten t options output files).1 options output Inventory.fileName
            (runBefore t settings options output (filesWritten t options output files).2).inventory.text).toList
        else [] :=
  exportPlacements_of_made h.made h.noFault

theorem mem_byPath {f : String × String} : f ∈ byPath files ↔ f ∈ files := List.mem_mergeSort

/-- The inventory of a successful export has one record for each file. -/
theorem Succeeded.inventory_files (ha : options.atomic = true) (h : Succeeded t options output files) :
    (run t settings options output files).2.inventory.files =
      (byPath files).map fun f => .of f.1 (output.join (Path.ofText f.1)).text f.2 := by
  have hwritten := (landed_writeFiles ha (byPath files) _ h.written).1
  have hfiles : (run t settings options output files).2.files = (filesWritten t options output files).2 := by
    rw [h.run_eq]
    unfold writeInventory
    split <;> rfl
  unfold Run.inventory Inventory.of Run.records
  simp only [hfiles]
  rw [show (filesWritten t options output files).2 = _ from hwritten, List.filterMap_map, ← List.filterMap_eq_map]
  rfl

/-- Every file of a successful export was put where its path led. -/
theorem Succeeded.landed (settings : Settings) (ha : options.atomic = true) (h : Succeeded t options output files) :
    ∀ f ∈ files, ∃ moment place, Landed (cleaned t options output) (run t settings options output files).1
      (exportPlacements t settings options output files) (output.join (Path.ofText f.1)) (Text.Utf8.encode f.2)
      moment place := by
  intro f hf
  have hdirs := Puts.nil (addsDirs_makeDirs (cleaned t options output) output)
  obtain ⟨moment, place, hl⟩ := (landed_writeFiles ha (byPath files) _ h.written).2 f (mem_byPath.mpr hf)
  refine ⟨moment, place, ?_⟩
  rw [h.run_eq, h.placements_eq]
  refine (Landed.after hl ?_).before hdirs
  cases hi : options.inventory with
  | false =>
    unfold writeInventory
    rw [if_neg (by simp [runBefore, hi])]
    exact Puts.nil (AddsDirs.refl _)
  | true =>
    rw [writeInventory_eq hi]
    exact puts_writeFile ha _ output _ _

/-- The inventory of a successful export is put last, or could not be written. -/
theorem Succeeded.inventory_landed (settings : Settings) (ha : options.atomic = true) (hi : options.inventory = true)
    (h : Succeeded t options output files) :
    let done := run t settings options output files
    let ps := exportPlacements t settings options output files
    (∃ e, done.2.inventoryFile = some (.error e)) ∨
      ∃ moment place, lastAt ps place = some (Text.Utf8.encode done.2.inventory.text) ∧
        Landed (cleaned t options output) done.1 ps (output.join (Path.ofText Inventory.fileName))
          (Text.Utf8.encode done.2.inventory.text) moment place := by
  intro done ps
  have hrun : done = _ := h.run_eq
  have hps : ps = _ := h.placements_eq
  rw [writeInventory_eq hi] at hrun
  rw [if_pos hi] at hps
  have hinventory : done.2.inventory =
      (runBefore t settings options output (filesWritten t options output files).2).inventory := by
    rw [hrun]
    rfl
  rw [hinventory]
  cases ho : (writeFile (filesWritten t options output files).1 options output Inventory.fileName
      (runBefore t settings options output (filesWritten t options output files).2).inventory.text).2.outcome with
  | error e =>
    refine .inl ⟨e, ?_⟩
    rw [hrun]
    exact congrArg some ho
  | ok record =>
    obtain ⟨-, moment, place, hp, hl⟩ := writeFile_ok ha ho
    have hdirs := Puts.nil (addsDirs_makeDirs (cleaned t options output) output)
    have hfiles := puts_writeFiles ha output (byPath files) ((cleaned t options output).makeDirs output).tree
    rw [hp] at hps
    refine .inr ⟨moment, place, ?_, ?_⟩
    · rw [hps, lastAt_append]
      simp [lastAt]
    · rw [hrun, hps]
      exact (Landed.before hl hfiles).before hdirs

/-- Without links a successful export puts its files where their paths name, and its inventory too. -/
theorem Succeeded.placements_named (ha : options.atomic = true) (h : Succeeded t options output files)
    (hn : NoLinks (cleaned t options output)) :
    ∀ p ∈ exportPlacements t settings options output files,
      (∃ f ∈ files, p = ((cleaned t options output).namedLocation (output.join (Path.ofText f.1)), Text.Utf8.encode f.2)) ∨
        p.1 = (cleaned t options output).namedLocation (output.join (Path.ofText Inventory.fileName)) := by
  have hdirs := Puts.nil (addsDirs_makeDirs (cleaned t options output) output)
  have hfiles := puts_writeFiles ha output (byPath files) ((cleaned t options output).makeDirs output).tree
  intro p hp
  rw [h.placements_eq] at hp
  rcases List.mem_append.mp hp with hp | hp
  · obtain ⟨f, hf, he⟩ := Export.placements_named ha _ _ (noLinks_later hdirs.toPlaces hn) p hp
    rw [namedLocation_later hdirs.toPlaces] at he
    exact .inl ⟨f, mem_byPath.mp hf, he⟩
  · split at hp
    · obtain ⟨-, moment, hl⟩ := landed_of_placement? ha (Option.mem_toList.mp hp)
      exact .inr (((Landed.before hl hfiles).before hdirs).named hn)
    · cases hp

/-- So where no two paths name one location every file is read back. -/
theorem Succeeded.read_noLinks (ha : options.atomic = true) (h : Succeeded t options output files)
    (hn : NoLinks (cleaned t options output))
    (hdistinct : ∀ f ∈ files, ∀ g ∈ files,
      (cleaned t options output).namedLocation (output.join (Path.ofText f.1)) =
        (cleaned t options output).namedLocation (output.join (Path.ofText g.1)) → f = g)
    (hinventory : ∀ f ∈ files, (cleaned t options output).namedLocation (output.join (Path.ofText f.1)) ≠
      (cleaned t options output).namedLocation (output.join (Path.ofText Inventory.fileName))) :
    ∀ f ∈ files, (run t settings options output files).1.read (output.join (Path.ofText f.1)) =
      .ok (Text.Utf8.encode f.2) := by
  intro f hf
  obtain ⟨moment, place, hl⟩ := h.landed settings ha f hf
  refine hl.read (fun q _ => hl.linksTo_noLinks hn q.1) ?_
  obtain ⟨last, hlast⟩ := lastAt_of_mem hl.mem
  have hplace := hl.named hn
  rcases h.placements_named ha hn _ (mem_of_lastAt hlast) with ⟨g, hg, he⟩ | he
  · obtain ⟨hloc, hbytes⟩ := Prod.mk.inj he
    obtain rfl := hdistinct f hf g hg (hplace.symm.trans hloc)
    rw [hlast, hbytes]
  · exact absurd (hplace.symm.trans he) (hinventory f hf)

end CrudQueries.Export
