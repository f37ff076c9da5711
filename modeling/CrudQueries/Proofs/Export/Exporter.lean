/-
  CrudQueries.Proofs.Export.Exporter — an exporter step by step.

  One export with an exporter does what the same export does by itself (`Export.run`), on the tree that it finds, and
  adds to what the exporter keeps (`call_eq`). Only the text of the inventory is of all that is kept, and nothing else
  depends on it: with another content a file is written at the same place, or meets the same trouble
  (`writeFile_text`). So after exports one after the other the exporter keeps what each of them by itself leaves to
  keep (`calls_eq`), and what the last comes to is of them all (`calls_call`).
-/

import CrudQueries.Export.Exporter
import CrudQueries.Proofs.Export.Fault

namespace CrudQueries.Files.Tree

open CrudQueries.Files (Path Tree Trouble)

variable {t : Tree} {p : Path}

/-! ## Other bytes -/

/-- A file can be replaced whatever its bytes are to be. -/
theorem replace_bytes (t : Tree) (p : Path) :
    (∃ e, ∀ bytes, t.replace p bytes = .error e) ∨ ∀ bytes, ∃ u, t.replace p bytes = .ok u := by
  unfold replace
  by_cases hnull : hasNull p = true
  · exact .inl ⟨.nullCharacter, fun _ => if_pos hnull⟩
  simp only [hnull, Bool.false_eq_true, if_false]
  cases t.temporaryTrouble? (t.temporaryDir p) p.name ((t.temporaryDir p).join ⟨"", [temporaryName p.name]⟩).text with
  | some e => exact .inl ⟨e, fun _ => rfl⟩
  | none =>
    cases t.walk false maxLinks (t.startOf p) p.parts with
    | error cause => exact .inl ⟨_, fun _ => rfl⟩
    | ok w =>
      cases w with
      | missing parent name => exact .inr fun bytes => ⟨_, rfl⟩
      | found place entry =>
        dsimp only
        split
        · exact .inl ⟨_, fun _ => rfl⟩
        · cases entry with
          | dir => exact .inl ⟨_, fun _ => rfl⟩
          | file | link => exact .inr fun bytes => ⟨_, rfl⟩

/-- So it can be written in place. -/
theorem write_bytes (t : Tree) (p : Path) :
    (∃ e, ∀ bytes, t.write p bytes = .error e) ∨ ∀ bytes, ∃ u, t.write p bytes = .ok u := by
  unfold write
  cases t.find true p with
  | error e => exact .inl ⟨e, fun _ => rfl⟩
  | ok w =>
    cases w with
    | missing parent name => exact .inr fun bytes => ⟨_, rfl⟩
    | found place entry =>
      cases entry with
      | dir | link => exact .inl ⟨_, fun _ => rfl⟩
      | file old => exact .inr fun bytes => ⟨_, rfl⟩

/-- Where files can be put for all bytes they are put at one place. -/
theorem puts_of_ok {follow : Bool} {store : ByteArray → Except Trouble Tree}
    (hok : ∀ {bytes u}, store bytes = .ok u →
      ∃ place, t.destination? follow p = some place ∧ place ≠ [] ∧ u = t.put place (.file bytes))
    (hall : ∀ bytes, ∃ u, store bytes = .ok u) :
    ∃ place, place ≠ [] ∧ t.destination? follow p = some place ∧ ∀ bytes, store bytes = .ok (t.put place (.file bytes)) := by
  obtain ⟨_, hempty⟩ := hall ⟨#[]⟩
  obtain ⟨place, hplace, hne, -⟩ := hok hempty
  refine ⟨place, hne, hplace, fun bytes => ?_⟩
  obtain ⟨_, hu⟩ := hall bytes
  obtain ⟨place', hplace', -, rfl⟩ := hok hu
  obtain rfl : place' = place := Option.some.inj (hplace'.symm.trans hplace)
  exact hu

theorem stores_bytes (atomic : Bool) (t : Tree) (p : Path) :
    let store (bytes : ByteArray) := if atomic then t.replace p bytes else t.write p bytes
    (∃ e, ∀ bytes, store bytes = .error e) ∨
      ∃ place, place ≠ [] ∧ t.destination? (!atomic) p = some place ∧
        ∀ bytes, store bytes = .ok (t.put place (.file bytes)) := by
  cases atomic with
  | true => exact (replace_bytes t p).imp_right (puts_of_ok replace_ok)
  | false => exact (write_bytes t p).imp_right (puts_of_ok write_ok)

end CrudQueries.Files.Tree

namespace CrudQueries.Export

open CrudQueries.Files (Location Path Tree Trouble)
open CrudQueries.Files.Tree (stores_bytes)

variable {t : Tree}

/-- With another content a file is written at the same place, or meets the same trouble. -/
theorem writeFile_text (t : Tree) (options : Options) (output : Path) (path : String) :
    (∃ u e, ∀ content, writeFile t options output path content = (u, ⟨path, .error e⟩)) ∨
      ∃ (u : Tree) (place : Location), place ≠ [] ∧ ∀ content,
        writeFile t options output path content = (u.put place (.file (Text.Utf8.encode content)),
          ⟨path, .ok (.of path (output.join (Path.ofText path)).text content)⟩) ∧
        placement? t options output path content = some (place, Text.Utf8.encode content) := by
  obtain ⟨made, hmade⟩ : ∃ made, t.makeDirs (output.join (Path.ofText path)).parent = made := ⟨_, rfl⟩
  obtain ⟨u, trouble⟩ := made
  cases trouble with
  | some e => exact .inl ⟨u, e, fun content => by simp only [writeFile, hmade]⟩
  | none =>
    rcases stores_bytes options.atomic u (output.join (Path.ofText path)) with ⟨e, herror⟩ | ⟨place, hne, hplace, hput⟩
    · exact .inl ⟨u, e, fun content => by simp only [writeFile, hmade, herror]⟩
    · refine .inr ⟨u, place, hne, fun content => ?_⟩
      have hwritten : writeFile t options output path content = (u.put place (.file (Text.Utf8.encode content)),
          ⟨path, .ok (.of path (output.join (Path.ofText path)).text content)⟩) := by
        simp only [writeFile, hmade, hput]
      exact ⟨hwritten, by simp only [placement?, hwritten, hmade, hplace, Option.map_some]⟩

/-! ## What an export leaves to keep -/

/-- The errors of an export that are kept: what ended it is none of them. -/
def Run.noted (r : Run) : List String :=
  (r.files.filter (·.fault?.isNone)).filterMap Run.Written.error? ++ (r.noDirectory.map Run.directoryError).toList

/-- Writing the inventory changes nothing else of an export. -/
theorem writeInventory_frame (t : Tree) (r : Run) :
    (writeInventory t r).2 = { r with inventoryFile := (writeInventory t r).2.inventoryFile } := by
  unfold writeInventory
  split <;> rfl

/-- The inventory of an export was written. -/
def Run.WroteInventory (r : Run) : Prop := ∃ record, r.inventoryFile = some (.ok record)

namespace Exporter

variable (x : Exporter)

/-- The exporter after an export. -/
def keep (r : Run) : Exporter :=
  { x with records := x.records ++ r.records, errors := x.errors ++ r.noted, warnings := x.warnings ++ r.warnings }

@[simp] theorem keep_options (r : Run) : (x.keep r).options = x.options := rfl

@[simp] theorem keep_output (r : Run) : (x.keep r).output = x.output := rfl

/-- The exporter after files were written. -/
def noteAll (written : List Written) : Exporter :=
  { x with
    records := x.records ++ written.filterMap (·.outcome.toOption)
    errors := x.errors ++ (written.filter (·.fault?.isNone)).filterMap Run.Written.error? }

theorem note_noteAll (w : Written) (written : List Written) (h : w.fault? = none) :
    (x.note w).noteAll written = x.noteAll (w :: written) := by
  unfold note noteAll
  rw [List.filter_cons_of_pos (by rw [h]; rfl), List.filterMap_cons, List.filterMap_cons]
  cases w.outcome.toOption <;> cases Run.Written.error? w <;> simp

theorem noteAll_fault {w : Written} {e : Trouble} (h : w.fault? = some e) : x.noteAll [w] = x := by
  have hnone : w.outcome.toOption = none := by
    unfold Written.fault? at h
    cases ho : w.outcome with
    | ok record => simp [ho] at h
    | error e => rfl
  simp [noteAll, h, hnone]

theorem writeFiles_eq (files : List (String × String)) (t : Tree) :
    x.writeFiles t files =
      let done := Export.writeFiles t x.options x.output files
      (done.1, x.noteAll done.2, done.2.findSome? (·.fault?)) := by
  induction files generalizing t x with
  | nil => simp [writeFiles, Export.writeFiles, noteAll]
  | cons file rest ih =>
    obtain ⟨path, content⟩ := file
    cases hf : (writeFile t x.options x.output path content).2.fault? with
    | some e =>
      rw [(writeFiles_cons_fault rest hf).1, writeFiles]
      simp only [hf, noteAll_fault x hf, List.findSome?_cons]
    | none =>
      rw [(writeFiles_cons rest hf).1, writeFiles]
      simp only [hf, ih, List.findSome?_cons, note_noteAll x _ _ hf]
      rfl

theorem keep_noteAll (t : Tree) (settings : Settings) (options : Options) (output : Path) (written : List Written) :
    (x.keep (runBefore t settings options output [])).noteAll written =
      x.keep (runBefore t settings options output written) := by
  simp [keep, noteAll, runBefore, Run.records, Run.noted, Run.warnings]

theorem clean_eq (t : Tree) :
    x.clean t = (cleaned t x.options x.output, x.keep (runBefore t x.settings x.options x.output [])) := by
  unfold clean cleaned
  cases hc : (cleanOutput t x.options x.output).2 <;>
    simp [keep, warn, runBefore, Run.records, Run.noted, Run.warnings, hc]

/-! ## One export -/

/-- What an export by itself leaves and what the call of an exporter leaves: the same, but for the text of the inventory
  if it was written, which is put last. -/
structure SameButInventory (ps : List Placement) (own : Tree × Run) (u : Tree) (kept : Inventory) : Prop where
  unwritten : ¬ own.2.WroteInventory → u = own.1
  written : own.2.WroteInventory → ∃ (base : Tree) (place : Location), place ≠ [] ∧
    ps.getLast? = some (place, Text.Utf8.encode own.2.inventory.text) ∧
    own.1 = base.put place (.file (Text.Utf8.encode own.2.inventory.text)) ∧
    u = base.put place (.file (Text.Utf8.encode kept.text))

theorem writeInventory_keep (t : Tree) {r : Run} (ho : r.options = x.options) (hout : r.output = x.output)
    (hi : r.inventoryFile = none) (ps : List Placement) :
    ((x.keep r).writeInventory t).2 = x.keep (Export.writeInventory t r).2 ∧
      SameButInventory (ps ++ if x.options.inventory then
          (placement? t x.options x.output Inventory.fileName r.inventory.text).toList else [])
        (Export.writeInventory t r) ((x.keep r).writeInventory t).1 (x.keep r).inventory := by
  cases hasked : x.options.inventory with
  | false =>
    rw [writeInventory, if_neg (by simp [keep, hasked]), Export.writeInventory, if_neg (by simp [ho, hasked])]
    refine ⟨rfl, fun _ => rfl, ?_⟩
    rintro ⟨record, h⟩
    rw [hi] at h
    cases h
  | true =>
    rw [writeInventory_eq (ho ▸ hasked), ho, hout]
    have hkeep : (x.keep r).writeInventory t = _ := if_pos hasked
    rw [hkeep]
    rcases writeFile_text t x.options x.output Inventory.fileName with ⟨u, e, herror⟩ | ⟨u, place, hne, hput⟩
    · simp only [keep, herror]
      refine ⟨?_, ⟨fun _ => rfl, by simp [Run.WroteInventory]⟩⟩
      simp [warn, Run.records, Run.noted, Run.warnings, hi, hout]
    · simp only [keep, hput]
      refine ⟨?_, ⟨fun h => absurd ⟨_, rfl⟩ h, fun _ => ⟨u, place, hne, ?_, rfl, rfl⟩⟩⟩
      · simp [Run.records, Run.noted, Run.warnings, hi, hout]
      · simp; rfl

/-- Once its directory is there the files are written, and the inventory unless they met a fault. -/
theorem call_of_made (hm : ((cleaned t x.options x.output).makeDirs x.output).trouble = none)
    (files : List (String × String)) :
    x.call t files =
      let written := filesWritten t x.options x.output files
      let y := x.keep (runBefore t x.settings x.options x.output written.2)
      match written.2.findSome? (·.fault?) with
      | some e => (written.1, y, .error e)
      | none => ((y.writeInventory written.1).1, (y.writeInventory written.1).2,
          .ok (y.writeInventory written.1).2.outcome) := by
  have hwrite : (x.keep (runBefore t x.settings x.options x.output [])).writeFiles
      ((cleaned t x.options x.output).makeDirs x.output).tree (byPath files) = _ := writeFiles_eq _ _ _
  simp only [keep_noteAll, keep_options, keep_output] at hwrite
  unfold call
  simp only [clean_eq, keep_output, hm, hwrite, filesWritten]
  cases (Export.writeFiles ((cleaned t x.options x.output).makeDirs x.output).tree x.options x.output
    (byPath files)).2.findSome? (·.fault?) <;> rfl

/-- One export does what it does by itself, and adds to what the exporter keeps. -/
theorem call_eq (t : Tree) (files : List (String × String)) :
    let own := run t x.settings x.options x.output files
    (x.call t files).2 = (x.keep own.2, match own.2.fault with
      | some e => .error e
      | none => .ok (x.keep own.2).outcome) ∧
    SameButInventory (exportPlacements t x.settings x.options x.output files) own (x.call t files).1
      (x.keep own.2).inventory := by
  intro own
  cases hm : ((cleaned t x.options x.output).makeDirs x.output).trouble with
  -- After a fault no inventory is written.
  | some e =>
    have hown : own = _ := run_of_trouble x.settings hm
    have hcall : x.call t files = (own.1, x.keep own.2, .ok (x.keep own.2).outcome) := by
      rw [hown, call]
      simp [clean_eq, hm, keep, runBefore, Run.records, Run.noted, Run.warnings]
    rw [hcall, hown]
    exact ⟨rfl, fun _ => rfl, by simp [Run.WroteInventory]⟩
  | none =>
    have hown : own = _ := run_eq hm
    rw [call_of_made x hm files]
    cases hf : (filesWritten t x.options x.output files).2.findSome? (·.fault?) with
    | some e =>
      rw [hf] at hown
      simp only [hown, hf]
      exact ⟨rfl, fun _ => rfl, by simp [Run.WroteInventory, runBefore]⟩
    | none =>
      rw [hf] at hown
      dsimp only at hown
      -- The inventory is of all that is kept, and here alone the two differ.
      obtain ⟨hkept, hsame⟩ := writeInventory_keep x (filesWritten t x.options x.output files).1
        (r := runBefore t x.settings x.options x.output (filesWritten t x.options x.output files).2) rfl rfl rfl
        (placements ((cleaned t x.options x.output).makeDirs x.output).tree x.options x.output (byPath files))
      have hfault : own.2.fault = none := by
        rw [hown, fault_writeInventory]
        rfl
      have hinventory : (x.keep own.2).inventory = (x.keep (runBefore t x.settings x.options x.output
          (filesWritten t x.options x.output files).2)).inventory := by
        rw [hown, writeInventory_frame]
        rfl
      rw [exportPlacements_of_made hm hf, hfault, hinventory]
      simp only [hf]
      rw [hkept, ← hown]
      exact ⟨rfl, hown ▸ hsame⟩

/-! ## Exports one after the other -/

/-- Each of the exports as it is by itself, on the tree that it finds. -/
def alone (t : Tree) (x : Exporter) : List (List (String × String)) → List Run
  | [] => []
  | files :: rest =>
    (run t x.settings x.options x.output files).2 :: (x.call t files).2.1.alone (x.call t files).1 rest

/-- The exporter after exports. -/
def keepAll (rs : List Run) : Exporter :=
  { x with
    records := x.records ++ rs.flatMap (·.records)
    errors := x.errors ++ rs.flatMap (·.noted)
    warnings := x.warnings ++ rs.flatMap (·.warnings) }

theorem keep_keepAll (r : Run) (rs : List Run) : (x.keep r).keepAll rs = x.keepAll (r :: rs) := by
  simp [keep, keepAll]

theorem keepAll_keep (rs : List Run) (r : Run) : (x.keepAll rs).keep r = x.keepAll (rs ++ [r]) := by
  simp [keep, keepAll]

theorem calls_cons (t : Tree) (files : List (String × String)) (rest : List (List (String × String))) :
    x.calls t (files :: rest) =
      (((x.call t files).2.1.calls (x.call t files).1 rest).1, ((x.call t files).2.1.calls (x.call t files).1 rest).2.1,
        (x.call t files).2.2 :: ((x.call t files).2.1.calls (x.call t files).1 rest).2.2) := rfl

/-- After exports the exporter keeps what each of them by itself leaves to keep. -/
theorem calls_eq (t : Tree) (batches : List (List (String × String))) :
    (x.calls t batches).2.1 = x.keepAll (x.alone t batches) := by
  induction batches generalizing t x with
  | nil => simp [calls, alone, keepAll]
  | cons files rest ih =>
    rw [calls_cons, alone, ← keep_keepAll, ih, (call_eq x t files).1]

theorem calls_append (t : Tree) (before after : List (List (String × String))) :
    x.calls t (before ++ after) =
      (((x.calls t before).2.1.calls (x.calls t before).1 after).1,
        ((x.calls t before).2.1.calls (x.calls t before).1 after).2.1,
        (x.calls t before).2.2 ++ ((x.calls t before).2.1.calls (x.calls t before).1 after).2.2) := by
  induction before generalizing t x with
  | nil => rfl
  | cons files rest ih =>
    rw [List.cons_append, calls_cons, calls_cons, ih]
    rfl

theorem length_calls (t : Tree) (batches : List (List (String × String))) :
    (x.calls t batches).2.2.length = batches.length := by
  induction batches generalizing t x with
  | nil => rfl
  | cons files rest ih =>
    rw [calls_cons]
    exact congrArg (· + 1) (ih _ _)

/-- An export of a sequence does what it does by itself, and comes to what all until then come to together. -/
theorem calls_call (t : Tree) (before : List (List (String × String))) (files : List (String × String))
    (after : List (List (String × String))) :
    let found := (x.calls t before).1
    let own := run found x.settings x.options x.output files
    let kept := x.keepAll (x.alone t before ++ [own.2])
    (x.calls t (before ++ files :: after)).2.2[before.length]? = some (match own.2.fault with
      | some e => .error e
      | none => .ok kept.outcome) ∧
    SameButInventory (exportPlacements found x.settings x.options x.output files) own
      (x.calls t (before ++ [files])).1 kept.inventory := by
  intro found own kept
  have hkept : (x.calls t before).2.1 = x.keepAll (x.alone t before) := calls_eq x t before
  obtain ⟨hcall, hsame⟩ := call_eq (x.calls t before).2.1 found files
  have hown : run found (x.calls t before).2.1.settings (x.calls t before).2.1.options (x.calls t before).2.1.output
      files = own := by rw [hkept]; rfl
  rw [hown, hkept, keepAll_keep] at hcall hsame
  constructor
  · rw [calls_append, ← length_calls x t before, List.getElem?_append_right (Nat.le_refl _), Nat.sub_self, calls_cons,
      hkept, List.getElem?_cons_zero, hcall]
  · rw [calls_append, hkept]
    exact hsame

theorem mem_alone {r : Run} {batches : List (List (String × String))} {t : Tree} (h : r ∈ x.alone t batches) :
    ∃ u, ∃ files ∈ batches, r = (run u x.settings x.options x.output files).2 := by
  induction batches generalizing t x with
  | nil => simp [alone] at h
  | cons files rest ih =>
    rw [alone, (call_eq x t files).1] at h
    rcases List.mem_cons.mp h with rfl | h
    · exact ⟨t, files, List.mem_cons_self, rfl⟩
    · obtain ⟨u, files', hmem, hr⟩ := ih _ h
      exact ⟨u, files', List.mem_cons_of_mem _ hmem, hr⟩

end Exporter

end CrudQueries.Export
