/-
  CrudQueries.Proofs.Export.Fault — what an export does not come to the end of.

  Every step of an export passes over the troubles of the file system, as errors or as warnings. The
  only other trouble that a step meets is a null character in a path, which no path of a file can have
  (`makeDirs_isSystem`, `replace_isSystem`): a file is at fault exactly if its path has one
  (`writeFile_fault?`). So an export whose directory can be made ends before its time exactly if one of
  its files has such a path (`run_fault`).
-/

import CrudQueries.Proofs.Export.Success
import CrudQueries.Proofs.Files.Named

namespace CrudQueries.Files.Tree

variable {t : Tree} {p : Path} {e : Trouble}

/-! ## Paths with null characters -/

theorem mem_partOf_mem {c : Char} {text : String} (hs : c ≠ '/') (hd : c ≠ '.') (h : c ∈ text.toList) :
    ∃ part ∈ partsOf text, c ∈ part.toList := by
  obtain ⟨part, hpart, hc⟩ := Text.exists_mem_splitOnChar hs h
  refine ⟨String.ofList part, List.mem_map_of_mem (List.mem_filter.mpr ⟨hpart, ?_⟩), by rwa [String.toList_ofList]⟩
  have hempty : part ≠ [] := List.ne_nil_of_mem hc
  have hhere : part ≠ ['.'] := by
    rintro rfl
    exact hd (List.mem_singleton.mp hc)
  simp [hempty, hhere]

/-- The parts of a path have a null character exactly if its text does. -/
theorem hasNull_ofText (text : String) : hasNull (Path.ofText text) = true ↔ '\x00' ∈ text.toList := by
  simp only [hasNull, Path.ofText, List.any_eq_true, List.contains_iff_mem]
  constructor
  · rintro ⟨part, hpart, hc⟩
    exact (mem_partsOf hpart).2.2.2 _ hc
  · exact mem_partOf_mem (by decide) (by decide)

theorem hasNull_join (output : Path) (text : String) (ho : hasNull output = false) :
    hasNull (output.join (Path.ofText text)) = true ↔ '\x00' ∈ text.toList := by
  rw [← hasNull_ofText]
  unfold Path.join
  split
  · rfl
  · simp only [hasNull] at ho ⊢
    rw [List.any_append, ho, Bool.false_or]

theorem hasNull_of_name (h : '\x00' ∉ p.name.toList) : hasNull p.parent = hasNull p := by
  unfold hasNull Path.parent
  rcases List.eq_nil_or_concat p.parts with hnil | ⟨front, last, hlast⟩
  · rw [hnil]
    rfl
  · rw [List.concat_eq_append] at hlast
    have hname : p.name = last := by simp [Path.name, hlast]
    rw [hname] at h
    simp [hlast, h]

/-! ## Steps -/

theorem find_error {follow : Bool} (hp : hasNull p = false) (h : t.find follow p = .error e) : e.isSystem = true := by
  rw [find, hp, if_neg Bool.false_ne_true] at h
  cases hw : t.walk follow maxLinks (t.startOf p) p.parts with
  | ok w =>
    rw [hw] at h
    cases h
  | error cause =>
    rw [hw] at h
    cases h
    rfl

theorem makeDir_error (hp : hasNull p = false) (h : t.makeDir p = .error e) : e.isSystem = true := by
  unfold makeDir at h
  cases hf : t.find false p with
  | error e' =>
    rw [hf] at h
    cases h
    exact find_error hp hf
  | ok w =>
    rw [hf] at h
    cases w <;> cases h
    rfl

theorem unlessDir_trouble (hp : hasNull p = false) (he : e.isSystem = true) {e' : Trouble}
    (h : (t.unlessDir p e).trouble = some e') : e'.isSystem = true := by
  have hentry : ∀ {e}, t.entry? p = .error e → e.isSystem = true := by
    intro e h
    rw [ entry?, hp, if_neg Bool.false_ne_true] at h
    split at h
    · cases h
    · cases h
    · split at h <;> cases h
      rfl
  unfold unlessDir at h
  rw [if_pos he] at h
  split at h
  · cases h
  · cases h
    exact he
  case h_3 e'' hlook =>
    cases h
    exact hentry hlook

theorem makeDirsAt_isSystem (root : String) {parts : List String} (hp : hasNull ⟨root, parts.reverse⟩ = false)
    (h : (t.makeDirsAt root parts).trouble = some e) : e.isSystem = true := by
  induction parts generalizing t e with
  | nil =>
    unfold makeDirsAt at h
    split at h
    · cases h
    case h_2 e' hm => exact unlessDir_trouble hp (makeDir_error hp hm) h
  | cons part parts ih =>
    have hparent : hasNull ⟨root, parts.reverse⟩ = false := by
      simp only [hasNull, List.reverse_cons, List.any_append, Bool.or_eq_false_iff] at hp ⊢
      exact hp.1
    unfold makeDirsAt at h
    dsimp only at h
    split at h
    · cases h
    case h_2 e' hm =>
      split at h
      · split at h
        · exact ih hparent h
        · split at h
          · cases h
          case h_2 e'' hm' => exact unlessDir_trouble hp (makeDir_error hp hm') h
      · exact unlessDir_trouble hp (makeDir_error hp hm) h

/-- Making directories along a path without null characters meets no trouble but those of the file system. -/
theorem makeDirs_isSystem (hp : hasNull p = false) (h : (t.makeDirs p).trouble = some e) : e.isSystem = true := by
  unfold makeDirs at h
  exact makeDirsAt_isSystem p.root (by rwa [List.reverse_reverse]) h

/-- Along one with a null character none is made. -/
theorem makeDirs_null (hp : hasNull p = true) : t.makeDirs p = ⟨t, some .nullCharacter⟩ := by
  obtain ⟨root, parts⟩ := p
  have hm : t.makeDir ⟨root, parts⟩ = .error .nullCharacter := by
    simp [makeDir, find, hp, bind, Except.bind]
  unfold makeDirs
  cases hr : parts.reverse with
  | nil =>
    obtain rfl : parts = [] := List.reverse_eq_nil_iff.mp hr
    simp [hasNull] at hp
  | cons part rest =>
    have hparts : (part :: rest).reverse = parts := by rw [← hr, List.reverse_reverse]
    simp [makeDirsAt, hparts, hm, Trouble.isNoEntry, unlessDir, Trouble.isSystem]

theorem replace_isSystem {bytes : ByteArray} (hp : hasNull p = false) (h : t.replace p bytes = .error e) :
    e.isSystem = true := by
  unfold replace at h
  simp only [hp, Bool.false_eq_true, if_false] at h
  split at h
  case h_1 e' htemporary =>
    cases h
    unfold temporaryTrouble? at htemporary
    split at htemporary
    · cases htemporary
      rfl
    · cases htemporary
      rfl
    · split at htemporary <;> cases htemporary
      rfl
    · cases htemporary
      rfl
  case h_2 =>
    split at h
    · cases h
      rfl
    · cases h
    · split at h
      · cases h
        rfl
      · split at h <;> cases h
        rfl

end CrudQueries.Files.Tree

namespace CrudQueries.Export

open CrudQueries.Files (Path Tree Trouble)
open CrudQueries.Files.Tree (hasNull hasNull_join hasNull_of_name makeDirs_isSystem makeDirs_null replace_isSystem)

variable {t : Tree} {options : Options} {output : Path} {path content : String}

/-! ## Files -/

/-- A file is at fault exactly if its path has a null character, be it in the name of a directory. -/
theorem writeFile_fault? (content : String) (ha : options.atomic = true) (ho : hasNull output = false)
    (hname : '\x00' ∉ (output.join (Path.ofText path)).name.toList) :
    (writeFile t options output path content).2.fault? =
      if '\x00' ∈ path.toList then some .nullCharacter else none := by
  have hparent := hasNull_of_name hname
  have hpath := hasNull_join output path ho
  cases hnull : hasNull (output.join (Path.ofText path)) with
  | true =>
    rw [if_pos (hpath.mp hnull)]
    simp [writeFile, makeDirs_null (hparent.trans hnull), Written.fault?, Trouble.isSystem]
  | false =>
    rw [if_neg fun h => Bool.false_ne_true (hnull.symm.trans (hpath.mpr h))]
    cases hm : (t.makeDirs (output.join (Path.ofText path)).parent).trouble with
    | some e => simp [writeFile, hm, Written.fault?, makeDirs_isSystem (hparent.trans hnull) hm]
    | none =>
      cases hr : (t.makeDirs (output.join (Path.ofText path)).parent).tree.replace (output.join (Path.ofText path))
          (Text.Utf8.encode content) with
      | ok t' => simp [writeFile, hm, ha, hr, Written.fault?]
      | error e => simp [writeFile, hm, ha, hr, Written.fault?, replace_isSystem hnull hr]

theorem writeFiles_fault? (ha : options.atomic = true) (ho : hasNull output = false) (files : List (String × String))
    (hname : ∀ f ∈ files, '\x00' ∉ (output.join (Path.ofText f.1)).name.toList) (t : Tree) :
    (writeFiles t options output files).2.findSome? (·.fault?) =
      if ∃ f ∈ files, '\x00' ∈ f.1.toList then some .nullCharacter else none := by
  induction files generalizing t with
  | nil => simp [writeFiles]
  | cons file rest ih =>
    obtain ⟨path, content⟩ := file
    have hfirst := writeFile_fault? (t := t) content ha ho (hname (path, content) List.mem_cons_self)
    have ih := ih fun f hf => hname f (List.mem_cons_of_mem _ hf)
    by_cases hp : '\x00' ∈ path.toList
    · rw [if_pos hp] at hfirst
      rw [(writeFiles_cons_fault rest hfirst).1, if_pos ⟨_, List.mem_cons_self, hp⟩]
      simp [hfirst]
    · rw [if_neg hp] at hfirst
      rw [(writeFiles_cons rest hfirst).1, List.findSome?_cons_of_isNone (by simp [hfirst]), ih]
      have hany : (∃ f ∈ (path, content) :: rest, '\x00' ∈ f.1.toList) ↔ ∃ f ∈ rest, '\x00' ∈ f.1.toList := by
        simp [hp]
      simp only [hany]

/-! ## Exports -/

variable {settings : Settings} {files : List (String × String)}

theorem fault_writeInventory (t : Tree) (r : Run) : (writeInventory t r).2.fault = r.fault := by
  unfold writeInventory
  split <;> rfl

/-- An export ends before its time exactly if its directory is there and the path of a file has a null character. -/
theorem run_fault (ha : options.atomic = true)
    (hname : ∀ f ∈ files, '\x00' ∉ (output.join (Path.ofText f.1)).name.toList) :
    (run t settings options output files).2.fault =
      if ((cleaned t options output).makeDirs output).trouble = none ∧ ∃ f ∈ files, '\x00' ∈ f.1.toList
      then some .nullCharacter else none := by
  cases hm : ((cleaned t options output).makeDirs output).trouble with
  | some e =>
    rw [run_of_trouble settings hm, if_neg (by simp)]
  | none =>
    have ho : hasNull output = false := by
      rw [← Bool.not_eq_true]
      intro hnull
      rw [makeDirs_null hnull] at hm
      cases hm
    have hwritten : (filesWritten t options output files).2.findSome? (·.fault?) = _ :=
      writeFiles_fault? ha ho (byPath files) (fun f hf => hname f (mem_byPath.mp hf)) _
    simp only [mem_byPath] at hwritten
    rw [run_eq hm, hwritten]
    by_cases hnull : ∃ f ∈ files, '\x00' ∈ f.1.toList
    · simp [hnull]
    · simp only [hnull, and_false, if_false, fault_writeInventory]
      rfl

end CrudQueries.Export
