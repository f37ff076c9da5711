/-
  CrudQueries.Proofs.Generation.Cleaned — what a cleaned output directory holds after a run.

  A run that is to clean its output directory removes what the directory holds, but for three names that are kept, and
  then writes its files. If it succeeds the directory holds these files, the directories that lead to them, what was
  kept and nothing else, and nothing outside has changed (`HoldsOnly`). Only a link can stop this: one that leads to a
  directory is not taken away, nor are the names after it, and the run, which takes no notice of that, succeeds all the
  same (`cleaned_unless_stopped`). Its files may then be written through the link (`written_through_link`).
-/

import CrudQueries.Proofs.Export.Fault
import CrudQueries.Proofs.Export.Filled
import CrudQueries.Proofs.Generation.Again
import CrudQueries.Proofs.Generation.OnDisk
import CrudQueries.Proofs.Generation.Prediction

namespace CrudQueries.Generation

open CrudQueries.Export (Filled Inventory Succeeded cleanOutput cleaned cleaned_of_clean filled_run inventoryEntry
  lastAt lastAt_of_mem location mem_byPath mem_files mem_of_lastAt placementOf writeInventory)
open CrudQueries.Files (IsName Location Path Tree partsOf)
open CrudQueries.Files.Tree (IsDirectory IsEntryName isCleared resolve_directory)
open CrudQueries.Validation (full)

variable {t s u : Tree} {out : Path} {o : Location} {files : List (String × String)}

/-! ## What a directory holds -/

/-- Below `o`, `u` holds the files, the directories that lead to them, what `t` has at or below the names that clearing
  keeps, and nothing else; outside of it, `u` is `t` with the directories that lead to `o`. -/
structure HoldsOnly (t u : Tree) (o : Location) (files : List (String × String)) : Prop where
  here : u.here = t.here
  directory : u.get? o = some .dir
  written : ∀ f ∈ files, ∃ g ∈ files, partsOf g.1 = partsOf f.1 ∧
    u.get? (o ++ partsOf f.1) = some (.file (Text.Utf8.encode g.2))
  folders : ∀ f ∈ files, ∀ q, q <+: partsOf f.1 → q ≠ partsOf f.1 → u.get? (o ++ q) = some .dir
  kept : ∀ name rest, isCleared true name = false → u.get? (o ++ name :: rest) = t.get? (o ++ name :: rest)
  nothingElse : ∀ name rest, isCleared true name = true → (∀ f ∈ files, ¬ name :: rest <+: partsOf f.1) →
    u.get? (o ++ name :: rest) = none
  outside : ∀ q, ¬ o <+: q → u.get? q = t.get? q ∨ (q <+: o ∧ t.get? q = none ∧ u.get? q = some .dir)

theorem HoldsOnly.of_mem_iff {files' : List (String × String)} (h : HoldsOnly t u o files) (hmem : ∀ f, f ∈ files ↔ f ∈ files') :
    HoldsOnly t u o files' where
  here := h.here
  directory := h.directory
  written f hf := by
    obtain ⟨g, hg, hput⟩ := h.written f ((hmem f).mpr hf)
    exact ⟨g, (hmem g).mp hg, hput⟩
  folders f hf := h.folders f ((hmem f).mpr hf)
  kept := h.kept
  nothingElse name rest hname hapart := h.nothingElse name rest hname fun f hf => hapart f ((hmem f).mp hf)
  outside := h.outside

theorem isPrefix_cases {q rest : Location} (h : q <+: o ++ rest) : q <+: o ∨ ∃ more, q = o ++ more ∧ more <+: rest := by
  rcases List.prefix_or_prefix_of_prefix h (List.prefix_append o rest) with hq | ⟨more, rfl⟩
  · exact .inl hq
  · exact .inr ⟨more, rfl, (List.prefix_append_right_inj o).mp h⟩

section fill

variable (hfilled : Filled s u (files.map (placementOf out)))
  (hlocation : ∀ f ∈ files, location out f.1 = out.parts ++ partsOf f.1)
include hfilled hlocation

/-- At the place of a file there is one of the files with this place. -/
theorem file_at_place : ∀ f ∈ files, ∃ g ∈ files, partsOf g.1 = partsOf f.1 ∧
    u.get? (out.parts ++ partsOf f.1) = some (.file (Text.Utf8.encode g.2)) := by
  intro f hf
  obtain ⟨last, hlast⟩ := lastAt_of_mem (List.mem_map_of_mem (f := placementOf out) hf)
  obtain ⟨g, hg, hplacement⟩ := List.mem_map.mp (mem_of_lastAt hlast)
  obtain ⟨hsame, hbytes⟩ := Prod.mk.inj hplacement
  have hput := hfilled.placed _ _ hlast
  rw [hlocation g hg, hlocation f hf] at hsame
  rw [hlocation f hf, ← hbytes] at hput
  exact ⟨g, hg, List.append_cancel_left hsame, hput⟩

/-- Any other place is as it was, or leads to a file. -/
theorem others_of_filled {q : Location} (hq : ∀ f ∈ files, out.parts ++ partsOf f.1 ≠ q) :
    u.get? q = s.get? q ∨
      (s.get? q = none ∧ u.get? q = some .dir ∧ ∃ f ∈ files, q <+: out.parts ++ partsOf f.1) := by
  have hlast : lastAt (files.map (placementOf out)) q = none := by
    rw [Option.eq_none_iff_forall_ne_some]
    intro bytes hl
    obtain ⟨f, hf, hplacement⟩ := List.mem_map.mp (mem_of_lastAt hl)
    refine hq f hf ?_
    rw [← hlocation f hf]
    exact congrArg Prod.fst hplacement
  refine (hfilled.untouched q hlast).imp_right fun ⟨hnone, hdir⟩ => ⟨hnone, hdir, ?_⟩
  obtain ⟨p, hp, hway, -⟩ := hfilled.ways q hnone hdir
  obtain ⟨f, hf, rfl⟩ := List.mem_map.mp hp
  exact ⟨f, hf, hlocation f hf ▸ hway⟩

/-- A place on the way of no file is as it was. -/
theorem get?_of_filled {q : Location} (hway : ∀ f ∈ files, ¬ q <+: out.parts ++ partsOf f.1) : u.get? q = s.get? q := by
  rcases others_of_filled hfilled hlocation fun f hf heq => hway f hf (heq ▸ List.prefix_rfl) with hsame | ⟨-, -, f, hf, hq⟩
  · exact hsame
  · exact absurd hq (hway f hf)

/-- Files that are put below a directory that holds none are what it holds. -/
theorem HoldsOnly.fill (h : HoldsOnly t s out.parts [])
    (hcleared : ∀ f ∈ files, ∀ n ∈ partsOf f.1, isCleared true n = true) : HoldsOnly t u out.parts files where
  here := hfilled.here.trans h.here
  directory := hfilled.dirs _ h.directory
  written := file_at_place hfilled hlocation
  folders f hf q hq hne := by
    obtain ⟨g, -, -, hput⟩ := file_at_place hfilled hlocation f hf
    exact hfilled.wellFormed.dir_of_prefix hput ((List.prefix_append_right_inj _).mpr hq) (by simpa using hne)
  kept name rest hkept := by
    have hway : ∀ f ∈ files, ¬ out.parts ++ name :: rest <+: out.parts ++ partsOf f.1 := by
      intro f hf hway
      have hmem : name ∈ partsOf f.1 := ((List.prefix_append_right_inj _).mp hway).subset List.mem_cons_self
      rw [hcleared f hf name hmem] at hkept
      cases hkept
    rw [get?_of_filled hfilled hlocation hway, h.kept name rest hkept]
  nothingElse name rest hname hapart := by
    have hway : ∀ f ∈ files, ¬ out.parts ++ name :: rest <+: out.parts ++ partsOf f.1 :=
      fun f hf hway => hapart f hf ((List.prefix_append_right_inj _).mp hway)
    rw [get?_of_filled hfilled hlocation hway, h.nothingElse name rest hname nofun]
  outside q hq := by
    have hne : ∀ f ∈ files, out.parts ++ partsOf f.1 ≠ q := by
      rintro f hf rfl
      exact hq (List.prefix_append _ _)
    rcases others_of_filled hfilled hlocation hne with hsame | ⟨hnone, hdir, f, hf, hway⟩
    · rw [hsame]
      exact h.outside q hq
    · -- It is new and leads to a file without being below the output directory, so it leads to this.
      rcases isPrefix_cases hway with hout | ⟨more, rfl, -⟩
      · rcases h.outside q hq with hsame | ⟨-, -, hdir'⟩
        · exact .inr ⟨hout, hsame ▸ hnone, hdir⟩
        · rw [hnone] at hdir'
          cases hdir'
      · exact absurd (List.prefix_append _ _) hq

end fill

/-! ## The directory that is cleared -/

section made

variable (hw : t.WellFormed) (hroot : out.root ≠ "") (hn : ∀ n ∈ out.parts, IsName n) (hl : t.LinkFree out.parts)
include hw hroot hn hl

/-- Before files are written a directory that was cleared without trouble holds what is kept. -/
theorem holdsOnly_made (hclear : (t.clear out true).trouble = none)
    (hm : ((t.clear out true).tree.makeDirs out).trouble = none) :
    ((t.clear out true).tree.makeDirs out).tree.WellFormed ∧
      HoldsOnly t ((t.clear out true).tree.makeDirs out).tree out.parts [] := by
  obtain ⟨root, o⟩ := out
  have hshrinks := Files.Tree.shrinks_clear hw ⟨root, o⟩ true
  have hlinks : (t.clear ⟨root, o⟩ true).tree.LinkFree o := fun q hq target hlink => hl q hq target (hshrinks.of_some hlink)
  have hcleared := hw.clear ⟨root, o⟩ true
  have hdirs := Files.Tree.dirsAlong_of_trouble hcleared hroot hlinks.way hn hm
  have huntouched : ∀ q, (∀ n rest, isCleared true n = true → q ≠ o ++ n :: rest) →
      (t.clear ⟨root, o⟩ true).tree.get? q = t.get? q :=
    fun q hq => Files.Tree.clear_untouched hw hroot hl.way hn hq
  have hbelow : ∀ name rest, ¬ o ++ name :: rest <+: o := by
    intro name rest hway
    have hlength := hway.length_le
    simp at hlength
  have hgone : ∀ name rest, isCleared true name = true → (t.clear ⟨root, o⟩ true).tree.get? (o ++ name :: rest) = none := by
    intro name rest hname
    by_cases hdir : t.get? o = some .dir
    · exact Files.Tree.clear_dir hw hroot hdir hclear hname rest
    · rw [Files.Tree.clear_of_not_dir hw hroot hl.way hn hdir]
      cases he : t.get? (o ++ name :: rest) with
      | none => rfl
      | some e => exact absurd (hw.dir_of_prefix he (List.prefix_append o _) (by simp)) hdir
  refine ⟨hcleared.makeDirs hroot hlinks.way hn, hdirs.here.trans hshrinks.here, hdirs.on o List.prefix_rfl, nofun, nofun,
    fun name rest hkept => ?_, fun name rest hname _ => ?_, fun q hq => ?_⟩
  · rw [hdirs.off _ (hbelow name rest), huntouched]
    rintro n more hn heq
    obtain ⟨rfl, -⟩ := List.cons.inj (List.append_cancel_left heq)
    rw [hkept] at hn
    cases hn
  · rw [hdirs.off _ (hbelow name rest), hgone name rest hname]
  · have hsame := huntouched q fun n rest _ heq => hq (heq ▸ List.prefix_append o _)
    rw [← hsame]
    -- Only a directory on the way to the output directory can be new.
    by_cases hon : q <+: o
    · exact (hdirs.get? q).imp_right fun ⟨hnone, hdir⟩ => ⟨hon, hnone, hdir⟩
    · exact .inl (hdirs.off q hon)

end made

/-! ## The files of a run -/

/-- None of the parts of the path of a file is a name that clearing keeps. -/
theorem IsFilePath.isCleared {p : String} (h : IsFilePath p) : ∀ n ∈ partsOf p, isCleared true n = true := by
  intro n hn
  have hkept : ∀ n ∈ Files.Tree.keptNames,
      '.' ∈ n.toList ∧ ¬ (".py".toList <:+ n.toList ∨ ".g.cs".toList <:+ n.toList) := by decide
  rw [Files.Tree.isCleared, Bool.true_and, Bool.not_eq_true', ← Bool.not_eq_true, List.contains_iff_mem]
  exact fun hmem => h.not_mem (hkept n hmem).1 (hkept n hmem).2 hn

/-- Below a directory a relative path leads to the place of its parts. -/
theorem IsFilePath.isFileAt_relative {p : String} (h : IsFilePath p) (hroot : out.root ≠ "") (hn : ∀ n ∈ out.parts, IsName n)
    (hrelative : (Path.ofText p).isAbsolute = false) (hnull : '\x00' ∉ p.toList) :
    location out p = out.parts ++ partsOf p ∧
      ∃ folders name, partsOf p = folders ++ [name] ∧
        Files.Tree.IsFileAt (out.join (Path.ofText p)) (out.parts ++ folders) name := by
  obtain ⟨folders, name, hparts, -⟩ := h.partsOf_eq
  have hat := Files.Tree.isFileAt_join hroot hn hrelative hparts (hparts ▸ h.isName hnull)
  refine ⟨?_, folders, name, hparts, hat⟩
  rw [hparts, ← List.append_assoc]
  exact hat.parts

/-- Below a directory that holds no file nothing is left at the names of folders, and so no link. -/
theorem HoldsOnly.linkFree {o folders : Location} (h : HoldsOnly t s o []) (hw : s.WellFormed)
    (hfolders : ∀ n ∈ folders, isCleared true n = true) : s.LinkFree (o ++ folders) := by
  intro q hq target hlink
  rcases isPrefix_cases hq with hq | ⟨more, rfl, hmore⟩
  · exact hw.linkFree h.directory q hq target hlink
  · cases more with
    | nil =>
      rw [List.append_nil, h.directory] at hlink
      cases hlink
    | cons n more =>
      rw [h.nothingElse n more (hfolders n (hmore.subset List.mem_cons_self)) nofun] at hlink
      cases hlink

/-- A directory that was cleared without trouble holds the files of an export that succeeds. -/
theorem holdsOnly_run (settings : Settings) {options : Export.Options} (ha : options.atomic = true)
    (hc : options.clean = true) (hs : Succeeded t options out files) (hw : t.WellFormed) (hroot : out.root ≠ "")
    (hn : ∀ n ∈ out.parts, IsName n) (hl : t.LinkFree out.parts) (hclear : (t.clear out true).trouble = none)
    (hfiles : ∀ f ∈ files, IsFilePath f.1 ∧ (Path.ofText f.1).isAbsolute = false ∧ '\x00' ∉ f.1.toList) :
    let done := Export.run t settings options out files
    HoldsOnly t done.1 out.parts (files ++ inventoryEntry options done.2.inventory.text) := by
  intro done
  have hcleaned := cleaned_of_clean t hc out
  have hm := hs.made
  rw [hcleaned] at hm
  obtain ⟨hmade, hempty⟩ := holdsOnly_made hw hroot hn hl hclear hm
  rw [← hcleaned] at hmade hempty
  have hat : ∀ f ∈ files, location out f.1 = out.parts ++ partsOf f.1 ∧ ∃ folders name, partsOf f.1 = folders ++ [name] ∧
      Files.Tree.IsFileAt (out.join (Path.ofText f.1)) (out.parts ++ folders) name := by
    intro f hf
    obtain ⟨hpath, hrelative, hnull⟩ := hfiles f hf
    exact hpath.isFileAt_relative hroot hn hrelative hnull
  have hname : partsOf Inventory.fileName = [Inventory.fileName] := by decide
  have hinventory : Files.Tree.IsFileAt (out.join (Path.ofText Inventory.fileName)) (out.parts ++ []) Inventory.fileName :=
    Files.Tree.isFileAt_join hroot hn (by decide) hname (by decide)
  rw [List.append_nil] at hinventory
  have hplace : location out Inventory.fileName = out.parts ++ [Inventory.fileName] := hinventory.parts
  have hfilled := filled_run settings ha hs hmade hempty.directory ?_ hinventory ?_ ?_
  · refine (hempty.fill hfilled (fun f hf => ?_) fun f hf => ?_).of_mem_iff fun f => ?_
    · rcases mem_files hf with hf | ⟨-, rfl⟩
      · exact (hat f hf).1
      · rw [hplace, hname]
    · rcases mem_files hf with hf | ⟨-, rfl⟩
      · exact (hfiles f hf).1.isCleared
      · show ∀ n ∈ partsOf Inventory.fileName, isCleared true n = true
        decide
    · rw [List.mem_append, List.mem_append, mem_byPath]
  · intro f hf
    obtain ⟨-, folders, name, hparts, hfile⟩ := hat f hf
    have hfolders : ∀ n ∈ folders, isCleared true n = true :=
      fun n hn => (hfiles f hf).1.isCleared n (hparts ▸ List.mem_append_left _ hn)
    exact ⟨_, _, hfile, hempty.linkFree hmade hfolders⟩
  · rw [hplace]
    exact hempty.nothingElse _ [] (by decide) nofun
  · intro f hf hway
    rw [hplace, (hat f hf).1, List.prefix_append_right_inj] at hway
    exact (hfiles f hf).1.not_mem (by decide) (by decide) (hway.subset List.mem_cons_self)

/-! ## A whole run -/

/-- What became of clearing is told by the trouble that it met. -/
theorem cleaning_eq {options : Export.Options} (settings : Settings) (hc : options.clean = true)
    (hs : Succeeded t options out files) :
    (∀ e, (t.clear out true).trouble = some e → (Export.run t settings options out files).2.cleaning = .failed e) ∧
      ((t.clear out true).trouble = none → ∀ e, (Export.run t settings options out files).2.cleaning ≠ .failed e) := by
  have hcleaning : (Export.run t settings options out files).2.cleaning = (cleanOutput t options out).2 := by
    rw [hs.run_eq]
    unfold writeInventory
    split <;> rfl
  rw [hcleaning, cleanOutput, if_pos hc]
  constructor
  · intro e he
    simp only [he]
  · intro hnone e
    simp only [hnone]
    rcases t.entry? out with _ | _ | _ <;> simp

/-- A path below the output directory has no null character if something was put there. -/
theorem not_null_of_landed (settings : Settings) {options : Export.Options} (ha : options.atomic = true)
    (hs : Succeeded t options out files) (hout : Files.Tree.hasNull out = false) :
    ∀ f ∈ files, '\x00' ∉ f.1.toList := by
  intro f hf hnull
  obtain ⟨moment, place, hl⟩ := hs.landed settings ha f hf
  obtain ⟨w, hfind, -⟩ := hl.leads
  have hnot := (Files.Tree.find_eq_ok.mp hfind).1
  rw [(Files.Tree.hasNull_join out f.1 hout).mpr hnull] at hnot
  cases hnot

/-- A run on types without errors succeeds if its export does. -/
theorem success_of_succeeded {options : Options} {entities : List Entity} {settings : Settings} {p : Path}
    (hr : t.resolve p = .ok out) (hends : endsWithValidation options (full entities settings) = false)
    (hvalid : (full entities settings).errors = [])
    (hs : Succeeded t (exportOptions options) out (synthesise settings (full entities settings) entities).files) :
    let done := run t options (.given entities settings) (some p)
    done.2.2 = none ∧ done.2.1.report.success = true := by
  intro done
  obtain ⟨herrors, hfault⟩ := hs.noErrors settings
  have hrun : done = _ := run_exports hr hends
  have habort : abort? options (full entities settings) = none := by
    unfold endsWithValidation at hends
    simpa using (Bool.or_eq_false_iff.mp hends).1
  have hgeneration : done.2.1.report.generationErrors = [] := generationErrors_eq_nil t options _ _
  rw [hrun] at hgeneration ⊢
  refine ⟨by simp only [hfault, Option.map_none], (success_iff _).mpr ⟨rfl, ?_, hgeneration, ?_⟩⟩
  · simp [exportedRun, Run.report, Run.validationErrors, hvalid, habort]
  · rw [(report_exported rfl).1, herrors]

/-! ## A link that is taken away, and one that is not -/

/-- Past a link to a directory beside the output directory a walk goes on there. -/
theorem walk_shop (hw : t.WellFormed) {target beside : String} (hlink : t.get? ["out", "shop"] = some (.link target))
    (htarget : Files.targetStart ["out"] target = ["out"] ∧ Files.targetNames target = ["..", beside]) {follow : Bool}
    (rest : List String) (hrest : rest ≠ [] ∨ follow = true) :
    t.walk follow Files.maxLinks [] ("out" :: "shop" :: rest) = t.walk follow 39 [] (beside :: rest) := by
  have hdir : t.get? ["out"] = some .dir := hw.closed ["out"] "shop" _ hlink
  have hend : (rest.isEmpty && !follow) = false := by
    rcases hrest with hrest | rfl
    · simp [hrest]
    · simp
  calc t.walk follow Files.maxLinks [] ("out" :: "shop" :: rest)
      = t.walk follow Files.maxLinks ["out"] ("shop" :: rest) := hw.walk_dir hdir ("shop" :: rest)
    _ = t.walk follow 39 (Files.targetStart ["out"] target) (Files.targetNames target ++ rest) := by
      rw [Files.Tree.walk_name ⟨by decide, by decide, by decide⟩, List.singleton_append, hlink]
      simp only [hend, Bool.false_eq_true, if_false, Files.maxLinks]
    _ = t.walk follow 39 [] (beside :: rest) := by
      rw [htarget.1, htarget.2, List.cons_append, Files.Tree.walk_up]
      rfl

/-- An output directory with a file that is kept, one that is not, and a link that leads nowhere. -/
def staleOutput : Tree :=
  ⟨[], [(["out"], .dir), (["out", ".gitkeep"], .file .empty), (["out", "old.py"], .file .empty),
    (["out", "shop"], .link "../nothing")]⟩

theorem wellFormed_staleOutput : staleOutput.WellFormed ∧ staleOutput.Distinct := by
  decide +kernel

/-- Removing does not stop at the link. -/
theorem not_stops_staleOutput (name : String) : ¬ staleOutput.Stops ⟨"/", ["out", name]⟩ := by
  rintro ⟨⟨target, hlink⟩, hleads⟩
  have hmem := Files.Tree.mem_of_get? hlink (by simp)
  obtain ⟨rfl, rfl⟩ : name = "shop" ∧ target = "../nothing" := by simpa [staleOutput] using hmem
  have hw := wellFormed_staleOutput.1
  have htarget : Files.targetStart ["out"] "../nothing" = ["out"] ∧ Files.targetNames "../nothing" = ["..", "nothing"] := by
    decide
  have hwalk : staleOutput.walk true Files.maxLinks [] ["out", "shop"] = _ := walk_shop hw hlink htarget [] (.inr rfl)
  rw [show ["nothing"] = [] ++ ["nothing"] from rfl,
    hw.walk_absent (Files.Tree.get?_nil _) (by decide) (by decide) (by decide)] at hwalk
  rw [Files.Tree.entry?_names _ (by decide) (by decide), hwalk] at hleads
  simp at hleads

/-- Without types the marker is the only file. -/
theorem files_without_types :
    (synthesise {} (full [] {}) []).files = [("query_fields.py", Fragment.markerText {})] := by
  have hpath : Fragment.markerPath {} = "query_fields.py" := by decide
  simp [synthesise, hpath, Data.Entries.putAll]

theorem succeeded_staleOutput :
    Succeeded staleOutput (exportOptions { clean := true }) ⟨"/", ["out"]⟩ [("query_fields.py", Fragment.markerText {})] := by
  have hw := wellFormed_staleOutput.1
  have hcleaned : cleaned staleOutput (exportOptions { clean := true }) ⟨"/", ["out"]⟩ = _ := cleaned_of_clean _ rfl _
  have hshrinks := Files.Tree.shrinks_clear hw ⟨"/", ["out"]⟩ true
  have hw' := hw.clear ⟨"/", ["out"]⟩ true
  have hdir : (staleOutput.clear ⟨"/", ["out"]⟩ true).tree.get? ["out"] = some .dir :=
    Files.Tree.clear_untouched hw (by decide) (.there (by decide)) (by decide) (by simp)
  have hfree : (staleOutput.clear ⟨"/", ["out"]⟩ true).tree.get? (["out"] ++ ["query_fields.py"]) ≠ some .dir :=
    fun hd => absurd (hshrinks.of_some hd) (by decide)
  have hmade : (staleOutput.clear ⟨"/", ["out"]⟩ true).tree.makeDirs ⟨"/", ["out"]⟩ = _ :=
    Files.Tree.makeDirs_there hw' (by decide) hdir
  have hat : Files.Tree.IsFileAt ((⟨"/", ["out"]⟩ : Path).join (Path.ofText "query_fields.py")) ["out"] "query_fields.py" :=
    ⟨by decide, by decide, by decide⟩
  refine ⟨by rw [hcleaned, hmade], fun w hwritten => ?_⟩
  rw [Export.filesWritten, hcleaned, hmade, Export.byPath, List.mergeSort_singleton, Export.writeFiles_singleton,
    List.mem_singleton] at hwritten
  rw [hwritten]
  exact Export.written_in_directory rfl hw' _ hat hdir (by decide) hfree

/-- A link in the output directory that leads to a directory beside it. -/
structure Linked (t : Tree) : Prop where
  wellFormed : t.WellFormed
  link : t.get? ["out", "shop"] = some (.link "../data")
  data : t.get? ["data"] = some .dir
  free : t.get? ["data", "item_queries.py"] = none

theorem Linked.directory (h : Linked t) : t.get? ["out"] = some .dir := h.wellFormed.closed ["out"] "shop" _ h.link

theorem Linked.isDirectory (h : Linked t) : IsDirectory t ["out"] :=
  Files.Tree.isDirectory_of_dir (by decide) h.directory

theorem Linked.walk (h : Linked t) {follow : Bool} (rest : List String) (hrest : rest ≠ [] ∨ follow = true) :
    t.walk follow Files.maxLinks [] ("out" :: "shop" :: rest) = t.walk follow 39 ["data"] rest := by
  have htarget : Files.targetStart ["out"] "../data" = ["out"] ∧ Files.targetNames "../data" = ["..", "data"] := by decide
  exact (walk_shop h.wellFormed h.link htarget rest hrest).trans (h.wellFormed.walk_dir h.data rest)

theorem Linked.walk_shop (h : Linked t) :
    t.walk true Files.maxLinks [] ["out", "shop"] = .ok (.found ["data"] .dir) := by
  rw [h.walk [] (.inr rfl), Files.Tree.walk]

theorem Linked.entry? (h : Linked t) : t.entry? ⟨"/", ["out", "shop"]⟩ = .ok (some .dir) := by
  rw [Files.Tree.entry?_names t (by decide) (by decide), h.walk_shop]

theorem Linked.find (h : Linked t) :
    t.find false ⟨"/", ["out", "shop"]⟩ = .ok (.found ["out", "shop"] (.link "../data")) :=
  h.wellFormed.find_there (by decide) h.link nofun

/-- The link is no directory to be made. -/
theorem Linked.makeDirs (h : Linked t) : t.makeDirs ⟨"/", ["out", "shop"]⟩ = ⟨t, none⟩ := by
  have hmake : t.makeDir ⟨"/", ["out", "shop"]⟩ = .error (.onPath .taken (⟨"/", ["out", "shop"]⟩ : Path).text) := by
    rw [Files.Tree.makeDir, h.find]
    rfl
  rw [Files.Tree.makeDirs_of_error hmake rfl, Files.Tree.unlessDir_onPath, h.entry?]

/-- A file is written through it. -/
theorem Linked.writeFile (h : Linked t) {options : Export.Options} (ha : options.atomic = true) (content : String) :
    ∃ record, Export.writeFile t options ⟨"/", ["out"]⟩ "shop/item_queries.py" content =
      (t.put ["data", "item_queries.py"] (.file (Text.Utf8.encode content)), ⟨"shop/item_queries.py", .ok record⟩) := by
  have hpath : (⟨"/", ["out"]⟩ : Path).join (Path.ofText "shop/item_queries.py") = ⟨"/", ["out", "shop", "item_queries.py"]⟩ := by
    decide
  have hparent : (⟨"/", ["out", "shop", "item_queries.py"]⟩ : Path).parent = ⟨"/", ["out", "shop"]⟩ := by decide
  have hwalk : t.walk false Files.maxLinks [] ["out", "shop", "item_queries.py"] =
      .ok (.missing ["data"] "item_queries.py") := by
    rw [h.walk ["item_queries.py"] (.inl (by simp)), Files.Tree.walk_name ⟨by decide, by decide, by decide⟩]
    rw [show t.get? (["data"] ++ ["item_queries.py"]) = none from h.free]
    rfl
  have hreplace : t.replace ⟨"/", ["out", "shop", "item_queries.py"]⟩ (Text.Utf8.encode content) =
      .ok (t.put ["data", "item_queries.py"] (.file (Text.Utf8.encode content))) := by
    have hat : Files.Tree.IsFileAt ⟨"/", ["out", "shop", "item_queries.py"]⟩ ["out", "shop"] "item_queries.py" :=
      ⟨by decide, rfl, by decide⟩
    have htemporary : ∀ text, t.temporaryTrouble? ⟨"/", ["out", "shop"]⟩ "item_queries.py" text = none := by
      intro text
      rw [Files.Tree.temporaryTrouble?, h.walk_shop]
      exact if_neg (by decide)
    unfold Files.Tree.replace
    simp only [hat.hasNull, Files.Tree.temporaryDir_plain t hat, hat.name_eq, htemporary, hat.startOf, hwalk,
      Bool.false_eq_true, if_false]
    rfl
  have hwrite : Export.writeFile t options ⟨"/", ["out"]⟩ "shop/item_queries.py" content = _ :=
    Export.writeFile_of_replace content ha (by rw [hpath, hparent]; exact h.makeDirs)
  rw [hpath, hreplace] at hwrite
  exact ⟨_, hwrite⟩

/-- A file in the output directory leaves the link as it is. -/
theorem Linked.put (h : Linked t) {name : String} (hn : IsEntryName name) (hfree : t.get? ["out", name] = none)
    (bytes : ByteArray) : Linked (t.put ["out", name] (.file bytes)) := by
  have hne : name ≠ "shop" := by
    rintro rfl
    rw [h.link] at hfree
    cases hfree
  have hname : IsName name := ⟨hn.notEmpty, hn.notHere, hn.notUp, hn.noSlash, by simpa using hn.notNull⟩
  refine ⟨h.wellFormed.put h.directory hname (by simpa [Files.Tree.fits] using hn.short) (by simp [hfree]) bytes,
    ?_, ?_, ?_⟩
  · rw [Files.Tree.get?_put_ne _ (by simpa using hne.symm), h.link]
  · rw [Files.Tree.get?_put_ne _ (by simp), h.data]
  · rw [Files.Tree.get?_put_ne _ (by simp), h.free]

def linkedOutput : Tree := ⟨[], [(["data"], .dir), (["out"], .dir), (["out", "shop"], .link "../data")]⟩

theorem linked_linkedOutput : Linked linkedOutput :=
  ⟨by decide +kernel, by decide, by decide, by decide⟩

/-- Clearing stops at the link and takes nothing away. -/
theorem clear_linkedOutput : linkedOutput.clear ⟨"/", ["out"]⟩ true = ⟨linkedOutput, some .linkedTree⟩ := by
  have h := linked_linkedOutput
  have hnames : linkedOutput.clearedNames ["out"] true = ["shop"] := by
    simp [Files.Tree.clearedNames, linkedOutput, Files.Tree.names, Files.Tree.below, Files.Tree.isBelow,
      Files.Tree.keptNames]
  rw [Files.Tree.clear_eq h.wellFormed (by decide) h.directory, hnames]
  rw [Files.Tree.pathsIn, List.map_singleton, Files.Tree.join_name, Files.Tree.removeAll, Files.Tree.removeAt,
    show (⟨"/", ["out"] ++ ["shop"]⟩ : Path) = ⟨"/", ["out", "shop"]⟩ from rfl, h.entry?]
  simp only [Files.Tree.removeDir, h.find]

/-- So the files of an export are written, one of them through the link. -/
theorem filesWritten_linkedOutput (marker fragment : String) :
    ∃ first second, Export.filesWritten linkedOutput (exportOptions { clean := true }) ⟨"/", ["out"]⟩
        [("query_fields.py", marker), ("shop/item_queries.py", fragment)] =
      ((linkedOutput.put ["out", "query_fields.py"] (.file (Text.Utf8.encode marker))).put ["data", "item_queries.py"]
          (.file (Text.Utf8.encode fragment)),
        [⟨"query_fields.py", .ok first⟩, ⟨"shop/item_queries.py", .ok second⟩]) := by
  have h := linked_linkedOutput
  have hn : IsEntryName "query_fields.py" := by decide
  have hfree : linkedOutput.get? ["out", "query_fields.py"] = none := by decide
  have hcleaned : cleaned linkedOutput (exportOptions { clean := true }) ⟨"/", ["out"]⟩ = linkedOutput := by
    rw [cleaned_of_clean _ rfl, clear_linkedOutput]
  have hsorted : Export.byPath [("query_fields.py", marker), ("shop/item_queries.py", fragment)] = _ :=
    List.mergeSort_of_pairwise (by simp)
  obtain ⟨first, hmarker⟩ : ∃ first, Export.writeFile linkedOutput (exportOptions { clean := true }) ⟨"/", ["out"]⟩
      "query_fields.py" marker =
        (linkedOutput.put ["out", "query_fields.py"] (.file (Text.Utf8.encode marker)), ⟨"query_fields.py", .ok first⟩) :=
    ⟨_, Export.writeFile_directory h.isDirectory hn (by simp [hfree]) _ rfl marker⟩
  have ha : (exportOptions { clean := true }).atomic = true := rfl
  obtain ⟨second, hfragment⟩ := (h.put hn hfree (Text.Utf8.encode marker)).writeFile ha fragment
  have hnofault : (Export.writeFile linkedOutput (exportOptions { clean := true }) ⟨"/", ["out"]⟩ "query_fields.py"
      marker).2.fault? = none := by
    rw [hmarker]
    rfl
  refine ⟨first, second, ?_⟩
  rw [Export.filesWritten, hcleaned, Files.Tree.makeDirs_directory h.isDirectory, hsorted, (Export.writeFiles_cons _ hnofault).1,
    hmarker, Export.writeFiles_singleton, hfragment]

theorem succeeded_linkedOutput (marker fragment : String) :
    Succeeded linkedOutput (exportOptions { clean := true }) ⟨"/", ["out"]⟩
      [("query_fields.py", marker), ("shop/item_queries.py", fragment)] := by
  obtain ⟨first, second, hwritten⟩ := filesWritten_linkedOutput marker fragment
  refine ⟨?_, fun w hw => ?_⟩
  · rw [cleaned_of_clean _ rfl, clear_linkedOutput, Files.Tree.makeDirs_directory linked_linkedOutput.isDirectory]
  · rw [hwritten] at hw
    rcases List.mem_cons.mp hw with rfl | hw
    · exact ⟨first, rfl⟩
    · rw [List.mem_singleton.mp hw]
      exact ⟨second, rfl⟩

theorem left_linkedOutput (marker fragment : String) :
    ∃ bytes, (Export.run linkedOutput {} (exportOptions { clean := true }) ⟨"/", ["out"]⟩
        [("query_fields.py", marker), ("shop/item_queries.py", fragment)]).1 =
      ((linkedOutput.put ["out", "query_fields.py"] (.file (Text.Utf8.encode marker))).put ["data", "item_queries.py"]
        (.file (Text.Utf8.encode fragment))).put ["out", "manifest.json"] (.file bytes) := by
  have h := linked_linkedOutput
  have hn : IsEntryName "query_fields.py" := by decide
  have hmarked := h.put hn (by decide) (Text.Utf8.encode marker)
  have hfree : (linkedOutput.put ["out", "query_fields.py"] (.file (Text.Utf8.encode marker))).get?
      ["data", "item_queries.py"] ≠ some .dir := by
    rw [hmarked.free]
    nofun
  have hdir := hmarked.isDirectory.put hfree (.file (Text.Utf8.encode fragment))
  obtain ⟨first, second, hwritten⟩ := filesWritten_linkedOutput marker fragment
  rw [(succeeded_linkedOutput marker fragment).run_eq, hwritten, Export.writeInventory_eq (by rfl)]
  refine ⟨_, congrArg Prod.fst (Export.writeFile_directory hdir (by decide) ?_ _ rfl _)⟩
  rw [Files.Tree.get?_put_ne _ (by simp), Files.Tree.get?_put_ne _ (by decide)]
  decide

/-- A type of the package that the link is named for. -/
def shopItem : Entity := ⟨"Item", some "items", ["title"], [], 1, none, none, none, some "shop"⟩

end CrudQueries.Generation
