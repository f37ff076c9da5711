/-
  CrudQueries.Proofs.Files.Staged — replacing a file step by step.

  Replacing a file is one step of a tree (`Tree.replace`), and several of a disk: an empty file of a free name is made
  in the directory, the bytes go to it, and it is renamed, or removed where that fails (`replaceInSteps`). The temporary
  file is on the way of no other and nothing lies below it, so it changes neither what the renaming finds nor, once it
  is removed, the tree (`remove_put`). Both ways of replacing a file have the same outcome, whichever free name is taken,
  and no temporary file is left (`replaceInSteps_eq`).
-/

import CrudQueries.Proofs.Files.Named

namespace CrudQueries.Files.Tree

/-- The names a temporary file is given: eight characters, `mid`, are chosen such that the name is free. -/
def temporaryNameOf (name mid : String) : String := "." ++ name ++ "." ++ mid ++ ".tmp"

/-- The file at a location gets the name that a path leads to, in the place of a file or link that has it. -/
def rename (t : Tree) (source : Location) (p : Path) : Except Cause Tree :=
  match t.get? source with
  | none => .error .noEntry
  | some file =>
    match t.walk false maxLinks (t.startOf p) p.parts with
    | .error cause => .error cause
    | .ok (.missing parent name) => .ok ((t.remove source).put (parent ++ [name]) file)
    | .ok (.found place entry) =>
      if p.name.isEmpty || p.name == ".." then .error .busy
      else if Entry.isDir entry then .error .isDirectory
      else .ok ((t.remove source).put place file)

/-- Replaces a file step by step. -/
def replaceInSteps (t : Tree) (p : Path) (mid : String) (bytes : ByteArray) : Change :=
  let directory := t.temporaryDir p
  let temporary := (directory.join ⟨"", [temporaryName p.name]⟩).text
  if hasNull p then ⟨t, some .nullCharacter⟩
  else
    match t.temporaryTrouble? directory p.name temporary with
    | some e => ⟨t, some e⟩
    | none =>
      let source := directory.parts ++ [temporaryNameOf p.name mid]
      let made := t.put source (.file .empty)
      let filled := made.put source (.file bytes)
      match filled.rename source p with
      | .ok u => ⟨u, none⟩
      | .error cause => ⟨filled.remove source, some (.moving cause temporary p.text)⟩

variable {t : Tree} {place q : Location} {name mid : String} {p : Path}

/-! ## The temporary file -/

theorem put_put (t : Tree) (q : Location) (first last : Entry) : (t.put q first).put q last = t.put q last := by
  simp only [put, Data.Entries.put_put]

/-- Where there was nothing, an entry that is put there can be removed again. -/
theorem WellFormed.remove_put (hw : t.WellFormed) (h : t.get? q = none) (e : Entry) : (t.put q e).remove q = t := by
  have hnew : q ∉ t.entries.map (·.1) := by
    rw [List.mem_map]
    rintro ⟨entry, hentry, rfl⟩
    obtain ⟨old, hold⟩ := exists_get? hentry
    rw [h] at hold
    cases hold
  have hbelow : ∀ entry ∈ t.entries, (!q.isPrefixOf entry.1) = true := by
    intro entry hentry
    rw [Bool.not_eq_true', ← Bool.not_eq_true, List.isPrefixOf_iff_prefix]
    intro hprefix
    obtain ⟨old, hold⟩ := exists_get? hentry
    have hne : q ≠ entry.1 := fun heq => hnew (List.mem_map.mpr ⟨entry, hentry, heq.symm⟩)
    rw [hw.dir_of_prefix hold hprefix hne] at h
    cases h
  simp only [Tree.remove, Tree.put, Data.Entries.put_of_not_mem e hnew, List.filter_append, List.filter_eq_self.mpr hbelow]
  simp

/-- A name that a temporary file is given is one that an entry can have, if the characters chosen are and it is not too
  long, and it is not that of the file. -/
theorem temporaryNameOf_spec (hn : IsName name) (hmid : IsName mid) (hsize : mid.utf8ByteSize = 8)
    (hshort : ¬ temporaryNameSize name > maxNameSize) :
    IsName (temporaryNameOf name mid) ∧ fits (temporaryNameOf name mid) = true ∧ temporaryNameOf name mid ≠ name := by
  have hbytes : (temporaryNameOf name mid).utf8ByteSize = temporaryNameSize name := by
    have hdot : ".".utf8ByteSize = 1 := by decide
    have hending : ".tmp".utf8ByteSize = 4 := by decide
    simp only [temporaryNameOf, String.utf8ByteSize_append, temporaryNameSize, hsize, hdot, hending]
    omega
  have hne : ∀ other : String, other.utf8ByteSize < temporaryNameSize name → temporaryNameOf name mid ≠ other := by
    rintro other hother rfl
    omega
  have hchars : ∀ c : Char, c ∉ ['.', 't', 'm', 'p'] → c ∉ name.toList → c ∉ mid.toList →
      c ∉ (temporaryNameOf name mid).toList := by
    intro c hc hname hmid
    simp only [List.mem_cons, List.not_mem_nil, or_false, not_or] at hc
    simp [temporaryNameOf, hc, hname, hmid]
  -- With eight characters, two dots and the ending it is longer than any name that no entry has.
  have hlow : ∀ other : String, other.utf8ByteSize < 14 → temporaryNameOf name mid ≠ other :=
    fun other hother => hne other (Nat.lt_of_lt_of_le hother (Nat.le_add_left _ _))
  refine ⟨⟨hlow _ (by decide), hlow _ (by decide), hlow _ (by decide), hchars '/' (by decide) hn.noSlash hmid.noSlash,
    hchars '\x00' (by decide) hn.notNull hmid.notNull⟩, ?_, hne _ ?_⟩
  · rw [fits, hbytes, decide_eq_true_eq]
    exact Nat.not_lt.mp hshort
  · simp only [temporaryNameSize]
    omega

/-! ## Replacing -/

/-- In a directory a file gets a name unless a directory has it. -/
theorem rename_plain (hp : t.Plain) (h : IsFileAt p place name) (hdir : t.get? place = some .dir)
    (hfits : fits name = true) {source : Location} {file : Entry} (hsource : t.get? source = some file) :
    t.rename source p =
      if t.get? (place ++ [name]) = some .dir then .error .isDirectory
      else .ok ((t.remove source).put (place ++ [name]) file) := by
  have hnamed : (name.isEmpty || name == "..") = false := by simp [h.isName.notEmpty, h.isName.notUp]
  rw [rename, hsource, h.startOf, h.parts, h.name_eq, hp.walk_dir hdir, walk_name (lookedUp_of_fits h.isName hfits)]
  cases hg : t.get? (place ++ [name]) with
  | none => simp
  | some e =>
    cases e with
    | dir => simp [walk, hnamed, Entry.isDir]
    | file old => simp [hnamed, Entry.isDir]
    | link target => exact absurd hg (hp.noLinks _ _)

/-- A file that is replaced step by step is replaced, and where it is not the tree is left as it was. -/
theorem replaceInSteps_eq (hp : t.Plain) (h : IsFileAt p place name) (hdir : t.get? place = some .dir)
    (hmid : IsName mid) (hsize : mid.utf8ByteSize = 8) (hfree : t.get? (place ++ [temporaryNameOf name mid]) = none)
    (bytes : ByteArray) : t.replaceInSteps p mid bytes = t.attempt (t.replace p bytes) := by
  rw [replace_plain hp.toWellFormed h hdir, replaceInSteps]
  simp only [h.hasNull, temporaryDir_plain t h, h.name_eq, temporaryTrouble?_plain hp.toWellFormed hdir, Bool.false_eq_true, if_false,
    put_put]
  rw [temporaryPath, h.name_eq, h.parent_eq]
  by_cases hlong : temporaryNameSize name > maxNameSize
  · simp only [hlong, if_true, attempt]
  · obtain ⟨hname, hfits, hne⟩ := temporaryNameOf_spec h.isName hmid hsize hlong
    have hfilled : (t.put (place ++ [temporaryNameOf name mid]) (.file bytes)).Plain :=
      hp.put hdir hname hfits (by simp [hfree]) bytes
    have hdir' : (t.put (place ++ [temporaryNameOf name mid]) (.file bytes)).get? place = some .dir := by
      rw [get?_put_ne t (by simp), hdir]
    have hother : place ++ [name] ≠ place ++ [temporaryNameOf name mid] := by simpa using hne.symm
    have hrename := rename_plain hfilled h hdir' (fits_of_temporaryNameSize hlong) (get?_put_self t (by simp) _)
    rw [hp.remove_put hfree, get?_put_ne t hother] at hrename
    simp only [hlong, if_false]
    rw [hrename, hp.remove_put hfree]
    by_cases hd : t.get? (place ++ [name]) = some .dir
    · simp only [hd, if_true, attempt]
    · simp only [hd, if_false, attempt]

end CrudQueries.Files.Tree
