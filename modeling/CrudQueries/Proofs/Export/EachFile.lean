/-
  CrudQueries.Proofs.Export.EachFile — what an export leaves, file by file.

  In a well-formed tree without links every file of an export is written whole or fails by itself, and the others are
  written all the same (`writeFiles_settled`). Written files hold their new bytes and have a record, the others have
  an error and are as they were (`Settled`); nothing else has changed but the directories on the way and the inventory
  (`run_settled`). One thing can be new at the path of a file that failed: a directory that leads to another file, if
  only the temporary name was too long (`directory_after_failure`).
-/

import CrudQueries.Generation.Run
import CrudQueries.Proofs.Export.OneFile
import CrudQueries.Proofs.Export.Success
import CrudQueries.Proofs.Generation.Containment
import CrudQueries.Proofs.Generation.Order

namespace CrudQueries.Export

open CrudQueries.Files (IsName Location Path Tree Trouble isName_replicate partsOf utf8ByteSize_replicate)
open CrudQueries.Files.Tree (IsFileAt Plain get?_put_ne get?_put_self isFileAt_join makeDirs_there mem_partsOf
  names_of_resolve not_append_isPrefix)
open CrudQueries.Generation (eq_of_partsOf isPlainPath join_ofText_plain partsOf_plain rootOf_plain)

-- An empty sum is the numeral, whatever else is imported.
attribute [local instance (high)] Zero.ofOfNat0

variable {t s u : Tree} {options : Options} {output out : Path} {files rest : List (String × String)}
  {failed : String → Option Trouble}

/-! ## Files that are written and files that fail -/

/-- The location of a path below the output directory. -/
def location (output : Path) (path : String) : Location := (output.join (Path.ofText path)).parts

/-- What becomes of a file, by the trouble that it meets, if it does. -/
def outcomeOf (output : Path) (failed : String → Option Trouble) (f : String × String) : Written :=
  ⟨f.1, match failed f.1 with
    | none => .ok (.of f.1 (output.join (Path.ofText f.1)).text f.2)
    | some e => .error e⟩

/-- `u` is `t` after files have been written below `output`, of which those failed that have a trouble. -/
structure Settled (t u : Tree) (output : Path) (files : List (String × String)) (failed : String → Option Trouble) :
    Prop where
  plain : u.Plain
  here : u.here = t.here
  system : ∀ f ∈ files, ∀ e, failed f.1 = some e → e.isSystem = true
  written : ∀ f ∈ files, failed f.1 = none → u.get? (location output f.1) = some (.file (Text.Utf8.encode f.2))
  others : ∀ q, (∀ f ∈ files, failed f.1 = none → location output f.1 ≠ q) →
    u.get? q = t.get? q ∨ (t.get? q = none ∧ u.get? q = some .dir ∧
      ∃ f ∈ files, q <+: location output f.1 ∧ q ≠ location output f.1)

theorem Settled.nil (hp : t.Plain) : Settled t t output [] failed :=
  ⟨hp, rfl, nofun, nofun, fun _ _ => .inl rfl⟩

theorem Settled.congr {failed' : String → Option Trouble} (h : Settled t u output files failed)
    (heq : ∀ f ∈ files, failed' f.1 = failed f.1) : Settled t u output files failed' where
  plain := h.plain
  here := h.here
  system f hf e he := h.system f hf e (by rw [← heq f hf, he])
  written f hf hn := h.written f hf (by rw [← heq f hf, hn])
  others q hq := h.others q fun f hf hn => hq f hf (by rw [heq f hf, hn])

/-- Files at other places leave alone what was written before. -/
theorem Settled.append (h : Settled t s output files failed) (h' : Settled s u output rest failed)
    (hapart : ∀ f ∈ files, ∀ g ∈ rest, location output g.1 ≠ location output f.1) :
    Settled t u output (files ++ rest) failed where
  plain := h'.plain
  here := h'.here.trans h.here
  system f hf e he := (List.mem_append.mp hf).elim (fun hf => h.system f hf e he) fun hf => h'.system f hf e he
  written f hf hn := by
    rcases List.mem_append.mp hf with hf | hf
    · have hput := h.written f hf hn
      rcases h'.others _ fun g hg _ => hapart f hf g hg with hsame | ⟨hnone, -⟩
      · rw [hsame, hput]
      · rw [hput] at hnone
        cases hnone
    · exact h'.written f hf hn
  others q hq := by
    have hfirst := h.others q fun f hf hn => hq f (List.mem_append_left _ hf) hn
    have hsecond := h'.others q fun f hf hn => hq f (List.mem_append_right _ hf) hn
    rcases hsecond with hsame | ⟨hnone, hdir, g, hg, hway⟩
    · rcases hfirst with hsame' | ⟨hnone, hdir, f, hf, hway⟩
      · exact .inl (hsame.trans hsame')
      · exact .inr ⟨hnone, hsame.trans hdir, f, List.mem_append_left _ hf, hway⟩
    · rcases hfirst with hsame | ⟨hnone', -⟩
      · exact .inr ⟨hsame ▸ hnone, hdir, g, List.mem_append_right _ hg, hway⟩
      · exact .inr ⟨hnone', hdir, g, List.mem_append_right _ hg, hway⟩

/-- Directories on the way of a file are the only ones that are new. -/
theorem new_on_way {made : Tree} {names place : Location} (hdirs : Tree.DirsAlong t made names)
    (hnames : names <+: place) (name : String) (q : Location) :
    made.get? q = t.get? q ∨ (t.get? q = none ∧ made.get? q = some .dir ∧ q <+: place ++ [name] ∧ q ≠ place ++ [name]) := by
  by_cases hq : q <+: names
  · rcases hdirs.get? q with hsame | ⟨hnone, hdir⟩
    · exact .inl hsame
    · refine .inr ⟨hnone, hdir, (hq.trans hnames).trans (List.prefix_append place [name]), ?_⟩
      rintro rfl
      exact not_append_isPrefix place name (hq.trans hnames)
  · exact .inl (hdirs.off q hq)

/-- One file is written or fails. -/
theorem writeFile_settled (ha : options.atomic = true) (hp : t.Plain) {path : String} (content : String)
    {place : Location} {name : String} (h : IsFileAt (output.join (Path.ofText path)) place name) :
    ∃ trouble : Option Trouble, ∀ failed, failed path = trouble →
      Settled t (writeFile t options output path content).1 output [(path, content)] failed ∧
        (writeFile t options output path content).2 = outcomeOf output failed (path, content) := by
  have hlocation : location output path = place ++ [name] := h.parts
  obtain ⟨made, names, hdirs, hmade, hnames, ⟨e, hsystem, hwrite⟩ | ⟨rfl, hfits, hfree, hwrite⟩⟩ :=
    writeFile_cases hp.toWellFormed h content (hp.way place) ha
  all_goals have hplain := hp.of_addsDirs hdirs.toAddsDirs hmade
  · refine ⟨some e, fun failed hfailed => ?_⟩
    rw [hwrite]
    refine ⟨⟨hplain, hdirs.here, ?_, ?_, fun q _ => ?_⟩, by simp only [outcomeOf, hfailed]⟩
    · intro f hf e' he
      obtain rfl := List.mem_singleton.mp hf
      obtain rfl : e = e' := Option.some.inj (hfailed.symm.trans he)
      exact hsystem
    · intro f hf hn
      obtain rfl := List.mem_singleton.mp hf
      rw [hfailed] at hn
      cases hn
    · simpa [hlocation] using new_on_way hdirs hnames name q
  · refine ⟨none, fun failed hfailed => ?_⟩
    rw [hwrite]
    have hput := hplain.put (hdirs.on _ List.prefix_rfl) (h.names name (by simp)) hfits hfree
    refine ⟨⟨hput _, hdirs.here, ?_, ?_, fun q hq => ?_⟩, by simp only [outcomeOf, hfailed]⟩
    · intro f hf e he
      obtain rfl := List.mem_singleton.mp hf
      rw [hfailed] at he
      cases he
    · intro f hf _
      obtain rfl := List.mem_singleton.mp hf
      rw [hlocation]
      exact get?_put_self _ (by simp) _
    · have hne : q ≠ names ++ [name] := by
        rintro rfl
        exact hq _ (List.mem_singleton_self _) hfailed hlocation
      rw [get?_put_ne _ hne]
      simpa [hlocation] using new_on_way hdirs hnames name q

/-- One more file at another place is written or fails, and what became of the others stays. -/
theorem Settled.writeFile (h : Settled t s output files failed) (ha : options.atomic = true) {path : String}
    {place : Location} {name : String} (hat : IsFileAt (output.join (Path.ofText path)) place name)
    (hapart : ∀ f ∈ files, location output path ≠ location output f.1) (content : String) :
    ∃ failed', (∀ f ∈ files, failed' f.1 = failed f.1) ∧
      Settled t (writeFile s options output path content).1 output (files ++ [(path, content)]) failed' ∧
      (writeFile s options output path content).2 = outcomeOf output failed' (path, content) := by
  obtain ⟨trouble, hone⟩ := writeFile_settled ha h.plain content hat
  have hsame : ∀ f ∈ files, (if f.1 = path then trouble else failed f.1) = failed f.1 :=
    fun f hf => if_neg fun heq => hapart f hf (by rw [heq])
  obtain ⟨hsettled, hwritten⟩ := hone (fun p => if p = path then trouble else failed p) (if_pos rfl)
  refine ⟨_, hsame, (h.congr hsame).append hsettled fun f hf g hg => ?_, hwritten⟩
  obtain rfl := List.mem_singleton.mp hg
  exact hapart f hf

/-- Every file of a list is written or fails, whatever becomes of the others. -/
theorem writeFiles_settled (ha : options.atomic = true) (files : List (String × String)) (hp : t.Plain)
    (hfiles : ∀ f ∈ files, ∃ place name, IsFileAt (output.join (Path.ofText f.1)) place name)
    (hapart : files.Pairwise fun f g => location output g.1 ≠ location output f.1) :
    ∃ failed, Settled t (writeFiles t options output files).1 output files failed ∧
      (writeFiles t options output files).2 = files.map (outcomeOf output failed) := by
  induction files generalizing t with
  | nil => exact ⟨fun _ => none, Settled.nil hp, rfl⟩
  | cons f rest ih =>
    obtain ⟨path, content⟩ := f
    obtain ⟨place, name, h⟩ := hfiles _ List.mem_cons_self
    obtain ⟨hfirst, hrest⟩ := List.pairwise_cons.mp hapart
    obtain ⟨trouble, hone⟩ := writeFile_settled ha hp content h
    have hplain := (hone (fun _ => trouble) rfl).1.plain
    obtain ⟨later, hsettled, hwritten⟩ := ih hplain (fun g hg => hfiles g (List.mem_cons_of_mem _ hg)) hrest
    -- The paths differ, so the troubles of this file and of the others do not meet.
    have hne : ∀ g ∈ rest, g.1 ≠ path := by
      intro g hg heq
      exact hfirst g hg (by rw [heq])
    let failed : String → Option Trouble := fun p => if p = path then trouble else later p
    have hlater : ∀ g ∈ rest, failed g.1 = later g.1 := fun g hg => if_neg (hne g hg)
    obtain ⟨hsettled', hwritten'⟩ := hone failed (if_pos rfl)
    have hnofault : (writeFile t options output path content).2.fault? = none := by
      rw [hwritten', Written.fault?, outcomeOf]
      cases hf : failed path with
      | none => rfl
      | some e => simp only [hsettled'.system _ (List.mem_singleton_self _) e hf, if_true]
    refine ⟨failed, ?_, ?_⟩
    · rw [(writeFiles_cons rest hnofault).1]
      refine hsettled'.append (hsettled.congr hlater) fun f hf g hg => ?_
      obtain rfl := List.mem_singleton.mp hf
      exact hfirst g hg
    · have hmap : rest.map (outcomeOf output failed) = rest.map (outcomeOf output later) :=
        List.map_congr_left fun g hg => by simp only [outcomeOf, hlater g hg]
      rw [(writeFiles_cons rest hnofault).1, List.map_cons, hmap, ← hwritten, ← hwritten']

/-- After its files an export changes nothing but its inventory. -/
theorem run_after_files (settings : Settings) (ha : options.atomic = true)
    (hm : ((cleaned t options output).makeDirs output).trouble = none) :
    (run t settings options output files).2.files = (filesWritten t options output files).2 ∧
      ∀ q, (filesWritten t options output files).1.get? q = some .dir →
        (run t settings options output files).1.get? q = some .dir := by
  rw [run_eq hm]
  split
  · exact ⟨rfl, fun _ hdir => hdir⟩
  · unfold writeInventory
    split
    · exact ⟨rfl, fun q hdir => (puts_writeFile ha _ _ _ _).dirs q hdir⟩
    · exact ⟨rfl, fun _ hdir => hdir⟩

theorem writeFiles_singleton (t : Tree) (options : Options) (output : Path) (f : String × String) :
    writeFiles t options output [f] =
      ((writeFile t options output f.1 f.2).1, [(writeFile t options output f.1 f.2).2]) := by
  cases hf : (writeFile t options output f.1 f.2).2.fault? with
  | none => rw [(writeFiles_cons [] hf).1, writeFiles]
  | some e => rw [(writeFiles_cons_fault [] hf).1]

/-! ## Plain paths -/

/-- Below a resolved directory a plain path is that of a file. -/
theorem isFileAt_plain (hroot : out.root ≠ "") (hnames : ∀ n ∈ out.parts, IsName n) {path : String}
    (h : isPlainPath path = true) (hnull : '\x00' ∉ path.toList) :
    location out path = out.parts ++ partsOf path ∧
      ∃ folders name, partsOf path = folders ++ [name] ∧
        IsFileAt (out.join (Path.ofText path)) (out.parts ++ folders) name := by
  have hjoin := join_ofText_plain h out
  have hne : partsOf path ≠ [] := by
    rw [partsOf_plain h]
    simpa using Text.splitOnChar_ne_nil '/' path.toList
  have hsplit := List.dropLast_concat_getLast hne
  have hparts : ∀ n ∈ partsOf path, IsName n := by
    intro n hn
    obtain ⟨hempty, hhere, hslash, hchars⟩ := mem_partsOf hn
    refine ⟨hempty, hhere, ?_, hslash, fun hmem => hnull (hchars _ hmem)⟩
    rw [partsOf_plain h] at hn
    obtain ⟨part, hpart, rfl⟩ := List.mem_map.mp hn
    have hplain := List.all_eq_true.mp h part hpart
    rintro heq
    rw [show part = ['.', '.'] by rw [← String.toList_ofList (l := part), heq]; rfl] at hplain
    revert hplain
    decide
  have habs : (Path.ofText path).isAbsolute = false := by simp [Path.isAbsolute, Path.ofText, rootOf_plain h]
  exact ⟨by rw [location, hjoin], _, _, hsplit.symm, isFileAt_join hroot hnames habs hsplit.symm (by rwa [hsplit])⟩

/-- Different plain paths are those of files at different places. -/
theorem location_ne (hroot : out.root ≠ "") (hnames : ∀ n ∈ out.parts, IsName n) {path other : String}
    (hplain : isPlainPath path = true) (hnull : '\x00' ∉ path.toList) (hplain' : isPlainPath other = true)
    (hnull' : '\x00' ∉ other.toList) (hne : path ≠ other) : location out path ≠ location out other := by
  intro heq
  rw [(isFileAt_plain hroot hnames hplain hnull).1, (isFileAt_plain hroot hnames hplain' hnull').1] at heq
  exact hne (eq_of_partsOf hplain hplain' (List.append_cancel_left heq))

/-! ## Totals -/

/-- A sum over files does not depend on their order. -/
theorem sum_perm (hp : files.Perm rest) (size : String × String → Int) :
    (files.map size).sum = (rest.map size).sum := by
  induction hp with
  | nil => rfl
  | cons f _ ih => simp only [List.map_cons, List.sum_cons, ih]
  | swap f g files =>
    simp only [List.map_cons, List.sum_cons]
    omega
  | trans _ _ ih ih' => exact ih.trans ih'

theorem byPath_perm_self (files : List (String × String)) : (byPath files).Perm files := List.mergeSort_perm files _

/-- The records of all files have the totals of a report on the same files. -/
theorem totals_of_report {r : Generation.Run} (hr : r.report.files = files) {records : List FileRecord}
    (h : records = (byPath files).map fun f => .of f.1 (output.join (Path.ofText f.1)).text f.2) :
    (records.length : Int) = r.report.totalFiles ∧ (records.map (·.sizeBytes)).sum = r.report.totalBytes ∧
      (records.map (·.lineCount)).sum = r.report.totalLines := by
  have hgenerated : (r.synthesis.map (·.generatedFiles)).getD [] = files.map fun f => GeneratedFile.of f.1 f.2 := by
    rw [← hr]
    unfold Generation.Run.report
    cases r.synthesis with
    | none => rfl
    | some s => rfl
  have hperm := byPath_perm_self files
  subst h
  refine ⟨?_, ?_, ?_⟩
  · simp [Generation.Run.report, hgenerated, hperm.length_eq]
  · simp only [Generation.Run.report, hgenerated, List.map_map]
    exact sum_perm hperm _
  · simp only [Generation.Run.report, hgenerated, List.map_map]
    exact sum_perm hperm _

/-! ## A whole export -/

theorem records_outcomes (output : Path) (failed : String → Option Trouble) (files : List (String × String)) :
    (files.map (outcomeOf output failed)).filterMap (·.outcome.toOption) =
      (files.filter fun f => (failed f.1).isNone).map fun f => .of f.1 (output.join (Path.ofText f.1)).text f.2 := by
  induction files with
  | nil => rfl
  | cons f files ih =>
    rw [List.map_cons, List.filterMap_cons, List.filter_cons]
    cases hf : failed f.1 with
    | none => simpa [outcomeOf, hf, Except.toOption] using ih
    | some e => simpa [outcomeOf, hf, Except.toOption] using ih

theorem errors_outcomes (output : Path) (failed : String → Option Trouble) (files : List (String × String)) :
    (files.map (outcomeOf output failed)).filterMap Run.Written.error? =
      files.filterMap fun f => (failed f.1).map fun e => "Failed to write " ++ f.1 ++ ": " ++ e.text := by
  rw [List.filterMap_map]
  refine List.filterMap_congr fun f _ => ?_
  simp only [Function.comp_apply, outcomeOf, Run.Written.error?]
  cases failed f.1 <;> rfl

theorem faults_outcomes (output : Path) {failed : String → Option Trouble} {files : List (String × String)}
    (h : ∀ f ∈ files, ∀ e, failed f.1 = some e → e.isSystem = true) :
    (files.map (outcomeOf output failed)).findSome? (·.fault?) = none := by
  rw [List.findSome?_eq_none_iff]
  intro w hw
  obtain ⟨f, hf, rfl⟩ := List.mem_map.mp hw
  rw [Written.fault?, outcomeOf]
  cases he : failed f.1 with
  | none => rfl
  | some e => simp only [h f hf e he, if_true]

/-- The file of the inventory, if it is to be written. -/
def inventoryEntry (options : Options) (text : String) : List (String × String) :=
  if options.inventory then [(Inventory.fileName, text)] else []

theorem mem_files {text : String} {f : String × String}
    (h : f ∈ byPath files ++ inventoryEntry options text) :
    f ∈ files ∨ (options.inventory = true ∧ f = (Inventory.fileName, text)) := by
  rcases List.mem_append.mp h with h | h
  · exact .inl (mem_byPath.mp h)
  · rw [inventoryEntry] at h
    split at h
    · rename_i hi
      exact .inr ⟨hi, List.mem_singleton.mp h⟩
    · cases h

/-- A place of no written file is as it was before the output directory was made, or is a new directory. -/
theorem Settled.others_before {made : Tree} {text : String} (hdirs : Tree.DirsAlong t made out.parts)
    (h : Settled made u out (byPath files ++ inventoryEntry options text) failed)
    (hlocation : ∀ f ∈ files, location out f.1 = out.parts ++ partsOf f.1)
    (hinventory : location out Inventory.fileName = out.parts ++ [Inventory.fileName]) {q : Location}
    (hq : ∀ f ∈ files, failed f.1 = none → out.parts ++ partsOf f.1 ≠ q)
    (hi : options.inventory = true → out.parts ++ [Inventory.fileName] ≠ q) :
    u.get? q = t.get? q ∨ (t.get? q = none ∧ u.get? q = some .dir ∧
      (q <+: out.parts ∨ ∃ f ∈ files, q <+: out.parts ++ partsOf f.1 ∧ q ≠ out.parts ++ partsOf f.1)) := by
  have hmade : made.get? q = t.get? q ∨ (t.get? q = none ∧ made.get? q = some .dir ∧ q <+: out.parts) := by
    by_cases hway : q <+: out.parts
    · exact (hdirs.get? q).imp_right fun ⟨hnone, hdir⟩ => ⟨hnone, hdir, hway⟩
    · exact .inl (hdirs.off q hway)
  have hfiles := h.others q fun f hf hn => by
    rcases mem_files hf with hf | ⟨hwritten, rfl⟩
    · rw [hlocation f hf]
      exact hq f hf hn
    · rw [hinventory]
      exact hi hwritten
  rcases hfiles with hsame | ⟨hnone, hdir, f, hf, hway⟩
  · rw [hsame]
    exact hmade.imp_right fun ⟨hnone, hdir, hway⟩ => ⟨hnone, hdir, .inl hway⟩
  · refine .inr ⟨?_, hdir, ?_⟩
    · rcases hmade with hsame | ⟨hnone', -⟩
      · rw [← hsame, hnone]
      · exact hnone'
    · rcases mem_files hf with hf | ⟨-, rfl⟩
      · rw [hlocation f hf] at hway
        exact .inr ⟨f, hf, hway⟩
      · rw [hinventory] at hway
        exact .inl ((List.prefix_concat_iff.mp hway.1).resolve_left hway.2)

section run

variable (settings : Settings) {text : String} (hp : t.Plain) (hr : t.resolve (Path.ofText text) = .ok out)
  (ha : options.atomic = true) (hc : options.clean = false) (hm : (t.makeDirs out).trouble = none)
  (hpaths : (files.map (·.1)).Nodup)
  (hfiles : ∀ f ∈ files, isPlainPath f.1 = true ∧ '\x00' ∉ f.1.toList ∧ f.1 ≠ Inventory.fileName)
include hp hr hm

omit hm in
/-- The output directory is resolved to names from the root. -/
theorem rooted_of_resolve : out.root ≠ "" ∧ ∀ n ∈ out.parts, IsName n := by
  obtain ⟨hroot, hnames⟩ := names_of_resolve hp hr
  refine ⟨?_, hnames⟩
  rw [hroot]
  decide

/-- The output directory and those that lead to it are there or made. -/
theorem outputMade : Tree.DirsAlong t (t.makeDirs out).tree out.parts ∧ (t.makeDirs out).tree.Plain := by
  obtain ⟨hroot, hnames⟩ := rooted_of_resolve hp hr
  exact ⟨Tree.dirsAlong_of_trouble hp.toWellFormed hroot (hp.way out.parts) hnames hm, Plain.makeDirs hp hroot hnames⟩

include ha hc hpaths hfiles

/-- The files that an export lists are written or fail one by one. -/
theorem filesWritten_settled :
    ∃ failed,
      Settled (t.makeDirs out).tree (filesWritten t options out files).1 out (byPath files) failed ∧
      (filesWritten t options out files).2 = (byPath files).map (outcomeOf out failed) := by
  obtain ⟨hroot, hnames⟩ := rooted_of_resolve hp hr
  obtain ⟨-, hmade⟩ := outputMade hp hr hm
  have hat : ∀ f ∈ byPath files, ∃ place name, IsFileAt (out.join (Path.ofText f.1)) place name := by
    intro f hf
    obtain ⟨hplain, hnull, -⟩ := hfiles f (mem_byPath.mp hf)
    obtain ⟨-, folders, name, -, hfile⟩ := isFileAt_plain hroot hnames hplain hnull
    exact ⟨_, _, hfile⟩
  have hdistinct : (byPath files).Pairwise fun f g => location out g.1 ≠ location out f.1 := by
    have hnodup : ((byPath files).map (·.1)).Nodup := ((byPath_perm_self files).map _).nodup_iff.mpr hpaths
    refine (List.pairwise_map.mp hnodup).imp_of_mem fun hf hg hne => ?_
    obtain ⟨hplain, hnull, -⟩ := hfiles _ (mem_byPath.mp hf)
    obtain ⟨hplain', hnull', -⟩ := hfiles _ (mem_byPath.mp hg)
    exact location_ne hroot hnames hplain' hnull' hplain hnull hne.symm
  rw [filesWritten, cleaned_of_not_clean t hc]
  exact writeFiles_settled ha (byPath files) hmade hat hdistinct

omit hp hr ha hpaths hfiles in
/-- Without faults the inventory comes after the files. -/
theorem run_eq_writeInventory (hnofault : (filesWritten t options out files).2.findSome? (·.fault?) = none) :
    run t settings options out files =
      writeInventory (filesWritten t options out files).1
        (runBefore t settings options out (filesWritten t options out files).2) := by
  have hmade : ((cleaned t options out).makeDirs out).trouble = none := by rwa [cleaned_of_not_clean t hc]
  rw [run_eq hmade, hnofault]

/-- All files of an export, and then its inventory, are written or fail one by one. -/
theorem filesSettled :
    let done := run t settings options out files
    ∃ failed,
      Settled (t.makeDirs out).tree done.1 out
        (byPath files ++ inventoryEntry options done.2.inventory.text) failed ∧
      done.2.fault = none ∧ done.2.noDirectory = none ∧ done.2.files = (byPath files).map (outcomeOf out failed) ∧
      (options.inventory = true → done.2.inventoryFile =
        some (outcomeOf out failed (Inventory.fileName, done.2.inventory.text)).outcome) := by
  intro done
  obtain ⟨failed, hsettled, hwritten⟩ := filesWritten_settled hp hr ha hc hm hpaths hfiles
  have hrun : done = _ := run_eq_writeInventory settings hc hm (by rw [hwritten, faults_outcomes out hsettled.system])
  cases hi : options.inventory with
  | false =>
    rw [writeInventory, if_neg (by simp [runBefore, hi])] at hrun
    refine ⟨failed, ?_, ?_, ?_, ?_, fun h => absurd h Bool.false_ne_true⟩
    · rw [inventoryEntry, if_neg (by simp [hi]), List.append_nil, hrun]
      exact hsettled
    · rw [hrun]
      rfl
    · rw [hrun]
      rfl
    · rw [hrun, ← hwritten]
      rfl
  | true =>
    rw [writeInventory_eq (by exact hi)] at hrun
    obtain ⟨hroot, hnames⟩ := rooted_of_resolve hp hr
    have hplain : isPlainPath Inventory.fileName = true := by decide
    have hnull : '\x00' ∉ Inventory.fileName.toList := by decide
    obtain ⟨-, folders, name, -, hfile⟩ := isFileAt_plain hroot hnames hplain hnull
    have hapart : ∀ f ∈ byPath files, location out Inventory.fileName ≠ location out f.1 := fun f hf => by
      obtain ⟨hplain', hnull', hne⟩ := hfiles f (mem_byPath.mp hf)
      exact location_ne hroot hnames hplain hnull hplain' hnull' hne.symm
    obtain ⟨failed', hsame, hsettled', hwritten'⟩ := hsettled.writeFile ha hfile hapart
      (runBefore t settings options out (filesWritten t options out files).2).inventory.text
    -- The inventory is taken from the files alone, and does not change when it is written.
    have hinventory : done.2.inventory.text =
        (runBefore t settings options out (filesWritten t options out files).2).inventory.text := by
      rw [hrun]
      rfl
    refine ⟨failed', ?_, ?_, ?_, ?_, fun _ => ?_⟩
    · rw [inventoryEntry, if_pos hi, hinventory, hrun]
      exact hsettled'
    · rw [hrun]
      rfl
    · rw [hrun]
      rfl
    · have hmap : (byPath files).map (outcomeOf out failed') = (byPath files).map (outcomeOf out failed) :=
        List.map_congr_left fun f hf => by simp only [outcomeOf, hsame f hf]
      rw [hmap, ← hwritten, hrun]
      rfl
    · rw [hinventory, ← hwritten', hrun]
      rfl

end run

/-- An export splits the paths, in their order, into records and errors. What has a record was written whole; what has
  an error is as it was, unless nothing was there and it is now a directory that leads to another file. Nothing else
  has changed but the inventory and directories that lead to the output or to a file. The inventory has the totals of
  the records, which without errors are those of a report on the same files. -/
theorem run_settled (settings : Settings) {text : String} (hp : t.Plain) (hr : t.resolve (Path.ofText text) = .ok out)
    (ha : options.atomic = true) (hc : options.clean = false) (hm : (t.makeDirs out).trouble = none)
    (hpaths : (files.map (·.1)).Nodup)
    (hfiles : ∀ f ∈ files, isPlainPath f.1 = true ∧ '\x00' ∉ f.1.toList ∧ f.1 ≠ Inventory.fileName) :
    let done := run t settings options out files
    let place (path : String) : Location := out.parts ++ partsOf path
    let full (path : String) : Path := out.join (Path.ofText path)
    ∃ failed : String → Option Trouble,
      (byPath files).Perm files ∧ (byPath files).Pairwise (fun f g => f.1 < g.1) ∧
      done.2.fault = none ∧
      done.2.records = ((byPath files).filter fun f => (failed f.1).isNone).map (fun f => .of f.1 (full f.1).text f.2) ∧
      done.2.errors = (byPath files).filterMap (fun f =>
        (failed f.1).map fun e => "Failed to write " ++ f.1 ++ ": " ++ e.text) ∧
      (∀ f ∈ files, failed f.1 = none → done.1.get? (place f.1) = some (.file (Text.Utf8.encode f.2)) ∧
        done.1.read (full f.1) = .ok (Text.Utf8.encode f.2)) ∧
      (∀ f ∈ files, failed f.1 ≠ none → done.1.get? (place f.1) = t.get? (place f.1) ∨
        (t.get? (place f.1) = none ∧ done.1.get? (place f.1) = some .dir ∧
          ∃ g ∈ files, place f.1 <+: place g.1 ∧ place f.1 ≠ place g.1)) ∧
      (done.1.here = t.here ∧ ∀ q, (∀ f ∈ files, place f.1 ≠ q) →
        (options.inventory = true → place Inventory.fileName ≠ q) →
        done.1.get? q = t.get? q ∨ (t.get? q = none ∧ done.1.get? q = some .dir ∧
          (q <+: out.parts ∨ ∃ f ∈ files, q <+: place f.1 ∧ q ≠ place f.1))) ∧
      (options.inventory = true → (∃ e, done.2.inventoryFile = some (.error e)) ∨
        done.1.get? (place Inventory.fileName) = some (.file (Text.Utf8.encode done.2.inventory.text))) ∧
      (done.2.inventory.totalFiles = done.2.records.length ∧
        done.2.inventory.totalBytes = (done.2.records.map (·.sizeBytes)).sum ∧
        done.2.inventory.totalLines = (done.2.records.map (·.lineCount)).sum) ∧
      ((∀ f ∈ files, failed f.1 = none) → ∀ r : Generation.Run, r.report.files = files →
        done.2.inventory.totalFiles = r.report.totalFiles ∧ done.2.inventory.totalBytes = r.report.totalBytes ∧
          done.2.inventory.totalLines = r.report.totalLines) := by
  intro done place full
  obtain ⟨failed, hsettled, hfault, hdirectory, houtcomes, hinventory⟩ :=
    filesSettled settings hp hr ha hc hm hpaths hfiles
  obtain ⟨hdirs, -⟩ := outputMade hp hr hm
  obtain ⟨hroot, hnames⟩ := names_of_resolve hp hr
  have hroot : out.root ≠ "" := by
    rw [hroot]
    decide
  have hlocation : ∀ f ∈ files, location out f.1 = place f.1 := fun f hf =>
    (isFileAt_plain hroot hnames (hfiles f hf).1 (hfiles f hf).2.1).1
  have hmanifest : location out Inventory.fileName = out.parts ++ [Inventory.fileName] :=
    (isFileAt_plain hroot hnames (by decide) (by decide)).1
  have hapart : ∀ path other, isPlainPath path = true → isPlainPath other = true → path ≠ other → place path ≠ place other :=
    fun path other hplain hplain' hne heq => hne (eq_of_partsOf hplain hplain' (List.append_cancel_left heq))
  have hmem : ∀ f ∈ files, f ∈ byPath files ++ inventoryEntry options done.2.inventory.text :=
    fun f hf => List.mem_append_left _ (mem_byPath.mpr hf)
  have hrecords : done.2.records = _ := (congrArg _ houtcomes).trans (records_outcomes out failed (byPath files))
  refine ⟨failed, byPath_perm_self files, ?_, hfault, hrecords, ?_, ?_, ?_, ⟨?_, ?_⟩, ?_, ⟨rfl, rfl, rfl⟩, ?_⟩
  · have hnodup : ((byPath files).map (·.1)).Nodup := ((byPath_perm_self files).map _).nodup_iff.mpr hpaths
    exact ((pairwise_byPath files).and (List.pairwise_map.mp hnodup)).imp fun ⟨hle, hne⟩ =>
      String.not_le.mp fun hge => hne (String.le_antisymm hle hge)
  · rw [Run.errors, houtcomes, hdirectory]
    exact (List.append_nil _).trans (errors_outcomes out failed (byPath files))
  · intro f hf hn
    obtain ⟨folders, name, hparts, hfile⟩ := (isFileAt_plain hroot hnames (hfiles f hf).1 (hfiles f hf).2.1).2
    have hput := hsettled.written f (hmem f hf) hn
    rw [hlocation f hf] at hput
    refine ⟨hput, hsettled.plain.read hfile ?_⟩
    rw [List.append_assoc, ← hparts, hput]
  · intro f hf hn
    obtain ⟨hplain, hnull, hne⟩ := hfiles f hf
    have hgo : ∀ g ∈ files, failed g.1 = none → place g.1 ≠ place f.1 := fun g hg hg' =>
      hapart _ _ (hfiles g hg).1 hplain fun heq => hn (heq ▸ hg')
    have hmanifest' : options.inventory = true → place Inventory.fileName ≠ place f.1 :=
      fun _ => hapart _ _ (by decide) hplain hne.symm
    refine (hsettled.others_before hdirs hlocation hmanifest hgo hmanifest').imp_right fun h =>
      ⟨h.1, h.2.1, h.2.2.resolve_left fun hout => ?_⟩
    -- No location below the output directory leads to it.
    obtain ⟨folders, name, hparts, -⟩ := (isFileAt_plain hroot hnames hplain hnull).2
    have hlength := hout.length_le
    simp only [place, hparts, List.length_append, List.length_singleton] at hlength
    omega
  · exact hsettled.here.trans hdirs.here
  · intro q hq hi
    exact hsettled.others_before hdirs hlocation hmanifest (fun f hf _ => hq f hf) hi
  · intro hi
    rw [hinventory hi]
    cases he : failed Inventory.fileName with
    | some e => exact .inl ⟨e, by simp only [outcomeOf, he]⟩
    | none =>
      have hput := hsettled.written (Inventory.fileName, done.2.inventory.text)
        (List.mem_append_right _ (by rw [inventoryEntry, if_pos hi]; exact List.mem_singleton_self _)) he
      rw [hmanifest] at hput
      exact .inr hput
  · intro hall r hreport
    have hall' : ∀ f ∈ byPath files, (failed f.1).isNone = true := fun f hf => by
      rw [hall f (mem_byPath.mp hf)]
      rfl
    rw [List.filter_eq_self.mpr hall'] at hrecords
    exact totals_of_report hreport hrecords

/-- A tree with an empty directory for the output. -/
def outputTree : Tree := ⟨[], [(["out"], .dir)]⟩

theorem plain_outputTree : outputTree.Plain := by
  decide +kernel

theorem outputTree_made : outputTree.makeDirs ⟨"/", ["out"]⟩ = ⟨outputTree, none⟩ :=
  makeDirs_there plain_outputTree.toWellFormed (by decide) (by decide)

/-- Two files, one of which stands on the way of the other. -/
theorem run_settled_two :
    let files := [("a", "x"), ("a/b", "y")]
    let done := run outputTree {} {} ⟨"/", ["out"]⟩ files
    outputTree.resolve (Path.ofText "/out") = .ok ⟨"/", ["out"]⟩ ∧
      ∃ failed : String → Option Trouble,
        done.2.records = ((byPath files).filter fun f => (failed f.1).isNone).map (fun f =>
          .of f.1 ((⟨"/", ["out"]⟩ : Path).join (Path.ofText f.1)).text f.2) ∧
        done.2.errors = (byPath files).filterMap (fun f =>
          (failed f.1).map fun e => "Failed to write " ++ f.1 ++ ": " ++ e.text) ∧
        (∀ f ∈ files, failed f.1 = none → done.1.read ((⟨"/", ["out"]⟩ : Path).join (Path.ofText f.1)) =
          .ok (Text.Utf8.encode f.2)) := by
  intro files done
  have hr : outputTree.resolve (Path.ofText "/out") = .ok ⟨"/", ["out"]⟩ := by
    rw [Tree.resolve_noLinks plain_outputTree.noLinks]
    decide +kernel
  have ha : ({} : Options).atomic = true := rfl
  have hfiles : ∀ f ∈ files, isPlainPath f.1 = true ∧ '\x00' ∉ f.1.toList ∧ f.1 ≠ Inventory.fileName := by
    decide +kernel
  obtain ⟨failed, -, -, -, hrecords, herrors, hwritten, -⟩ :=
    run_settled {} plain_outputTree hr ha rfl (by rw [outputTree_made]) (by decide) hfiles
  exact ⟨hr, failed, hrecords, herrors, fun f hf hn => (hwritten f hf hn).2⟩

theorem not_blocked_outputTree (names : Location) : ¬ outputTree.Blocked names := by
  rintro ⟨place, bytes, -, hfile⟩
  by_cases hne : place = []
  · rw [hne] at hfile
    cases hfile
  · have hmem := Tree.mem_of_get? hfile hne
    simp [outputTree] at hmem

/-- The paths of a name and of a file below it. -/
theorem join_names {long : String} (hn : IsName long) :
    (⟨"/", ["out"]⟩ : Path).join (Path.ofText long) = ⟨"/", ["out", long]⟩ ∧
      (⟨"/", ["out"]⟩ : Path).join (Path.ofText (long ++ "/b")) = ⟨"/", ["out", long, "b"]⟩ := by
  have hpart : Generation.isPlainPart long.toList = true := by
    have hhere : long.toList ≠ ['.'] := fun h => hn.notHere (String.toList_inj.mp h)
    have hup : long.toList ≠ ['.', '.'] := fun h => hn.notUp (String.toList_inj.mp h)
    simp [Generation.isPlainPart, hn.notEmpty, hhere, hup]
  have hfirst : Text.splitOnChar '/' long.toList = [long.toList] := Text.splitOnChar_of_not_mem hn.noSlash
  have hsecond : Text.splitOnChar '/' (long ++ "/b").toList = [long.toList, ['b']] := by
    rw [String.toList_append, show "/b".toList = '/' :: ['b'] by decide, Text.splitOnChar_append_cons, hfirst,
      show Text.splitOnChar '/' ['b'] = [['b']] by decide]
    rfl
  have hplain : isPlainPath long = true := by simp [isPlainPath, hfirst, hpart]
  have hplain' : isPlainPath (long ++ "/b") = true := by
    rw [isPlainPath, hsecond]
    simpa using ⟨hpart, by decide⟩
  have hparts : partsOf (long ++ "/b") = [long, "b"] := by
    rw [partsOf_plain hplain', hsecond, List.map_cons, List.map_singleton, String.ofList_toList]
  constructor
  · rw [join_ofText_plain hplain, partsOf_plain hplain, hfirst, List.map_singleton, String.ofList_toList]
    rfl
  · rw [join_ofText_plain hplain', hparts]
    rfl

theorem le_append (s u : String) : s ≤ s ++ u := by
  intro h
  have hlt := String.lt_iff.mp h
  rw [String.toList_append] at hlt
  exact absurd hlt (List.not_lt.mpr List.le_append_left)

/-- A file whose name has no room for that of a temporary file fails, and in its place a directory is made for the
  next one. -/
theorem directory_made {long : String} (hn : IsName long) (hfits : Tree.fits long = true)
    (hlong : Tree.temporaryNameSize long > Files.maxNameSize) (content content' : String) :
    let done := run outputTree {} {} ⟨"/", ["out"]⟩ [(long, content), (long ++ "/b", content')]
    (∃ e, ⟨long, .error e⟩ ∈ done.2.files) ∧ done.1.get? ["out", long] = some .dir := by
  intro done
  have ha : ({} : Options).atomic = true := rfl
  obtain ⟨hjoin, hjoin'⟩ := join_names hn
  have hfirst : IsFileAt ((⟨"/", ["out"]⟩ : Path).join (Path.ofText long)) ["out"] long := by
    rw [hjoin]
    exact ⟨by simp, rfl, by simpa using ⟨by decide, hn⟩⟩
  have hsecond : IsFileAt ((⟨"/", ["out"]⟩ : Path).join (Path.ofText (long ++ "/b"))) ["out", long] "b" := by
    rw [hjoin']
    exact ⟨by simp, rfl, by simpa using ⟨by decide, hn, by decide⟩⟩
  obtain ⟨e, hsystem, hfails⟩ : ∃ e, e.isSystem = true ∧
      writeFile outputTree {} ⟨"/", ["out"]⟩ long content = (outputTree, ⟨long, .error e⟩) := by
    obtain ⟨-, -, hwrite⟩ := writeFile_made plain_outputTree.toWellFormed hfirst content (plain_outputTree.way _) ha (not_blocked_outputTree _) (by decide)
    rw [if_pos hlong, hfirst.parent_eq, hjoin, outputTree_made] at hwrite
    exact ⟨_, rfl, hwrite⟩
  have hdir : (writeFile outputTree {} ⟨"/", ["out"]⟩ (long ++ "/b") content').1.get? ["out", long] = some .dir := by
    obtain ⟨hdirs, -, hwrite⟩ := writeFile_made plain_outputTree.toWellFormed hsecond content' (plain_outputTree.way _) ha (not_blocked_outputTree _)
      (by simpa using ⟨by decide, hfits⟩)
    have hthere := hdirs.on _ List.prefix_rfl
    rw [hwrite]
    split
    · exact hthere
    · split
      · exact hthere
      · rwa [get?_put_ne _ (by simp)]
  have hsorted : byPath [(long, content), (long ++ "/b", content')] = [(long, content), (long ++ "/b", content')] :=
    List.mergeSort_of_pairwise (by simpa using le_append long "/b")
  have hnofault : (writeFile outputTree {} ⟨"/", ["out"]⟩ long content).2.fault? = none := by
    rw [hfails]
    simp only [Written.fault?, hsystem, if_true]
  -- Whatever becomes of the second file, the directory stays.
  have hwritten : filesWritten outputTree {} ⟨"/", ["out"]⟩ [(long, content), (long ++ "/b", content')] =
      writeFiles outputTree {} ⟨"/", ["out"]⟩ [(long, content), (long ++ "/b", content')] := by
    rw [filesWritten, hsorted, cleaned_of_not_clean _ rfl, outputTree_made]
  rw [(writeFiles_cons _ hnofault).1, hfails] at hwritten
  have hmade : ((cleaned outputTree {} ⟨"/", ["out"]⟩).makeDirs ⟨"/", ["out"]⟩).trouble = none := by
    rw [cleaned_of_not_clean _ rfl, outputTree_made]
  obtain ⟨hfiles, hdirs⟩ : done.2.files = _ ∧ ∀ q, _ → done.1.get? q = some .dir := run_after_files {} ha hmade
  rw [hwritten] at hfiles hdirs
  refine ⟨⟨e, ?_⟩, hdirs _ ?_⟩
  · rw [hfiles]
    exact List.mem_cons_self
  · rw [writeFiles_singleton]
    exact hdir

/-- A name that has no room for that of a temporary file. -/
def longName : String := String.ofList (List.replicate 250 'x')

theorem directory_after_failure :
    let done := run outputTree {} {} ⟨"/", ["out"]⟩ [(longName, "x"), (longName ++ "/b", "y")]
    outputTree.get? ["out", longName] = none ∧ (∃ e, ⟨longName, .error e⟩ ∈ done.2.files) ∧
      done.1.get? ["out", longName] = some .dir := by
  have hn : IsName longName := isName_replicate (by decide)
  have hsize : longName.utf8ByteSize = 250 := by
    unfold longName
    exact utf8ByteSize_replicate 250
  have hfits : Tree.fits longName = true := by
    rw [Tree.fits, hsize]
    decide
  have hlong : Tree.temporaryNameSize longName > Files.maxNameSize := by
    rw [Tree.temporaryNameSize, hsize]
    decide
  have hfree : outputTree.get? ["out", longName] = none := by
    simp [outputTree, Tree.get?, Data.Entries.get?]
  exact ⟨hfree, directory_made hn hfits hlong "x" "y"⟩

end CrudQueries.Export
