/-
  CrudQueries.Proofs.Files.Directory — files in a directory that a path names directly.

  Where every name of a path leads to a directory (`IsDirectory`), walks along it go to the place of
  the same names (`walk_directory`), making it does nothing (`makeDirs_directory`), and a file that is
  replaced in it goes to the place of its name, unless a directory has that name (`replace_directory`).
-/

import CrudQueries.Files.Reading
import CrudQueries.Proofs.Files.Frame
import CrudQueries.Proofs.Text.Lines

namespace CrudQueries.Files.Tree

/-- A name that an entry can have and that has room for that of a temporary file. -/
structure IsEntryName (name : String) : Prop where
  notHere : name ≠ "."
  notUp : name ≠ ".."
  notEmpty : name ≠ ""
  fits : temporaryNameSize name ≤ maxNameSize
  notNull : name.toList.contains '\x00' = false
  noSlash : '/' ∉ name.toList

instance (name : String) : Decidable (IsEntryName name) :=
  decidable_of_iff (name ≠ "." ∧ name ≠ ".." ∧ name ≠ "" ∧ temporaryNameSize name ≤ maxNameSize ∧
      name.toList.contains '\x00' = false ∧ '/' ∉ name.toList)
    ⟨fun ⟨hhere, hup, hempty, hfits, hnull, hslash⟩ => ⟨hhere, hup, hempty, hfits, hnull, hslash⟩,
      fun h => ⟨h.notHere, h.notUp, h.notEmpty, h.fits, h.notNull, h.noSlash⟩⟩

theorem IsEntryName.short {name : String} (h : IsEntryName name) : ¬ name.utf8ByteSize > maxNameSize := by
  have := h.fits
  simp only [temporaryNameSize] at this
  omega

theorem IsEntryName.lookedUp {name : String} (h : IsEntryName name) : LookedUp name :=
  ⟨h.notHere, h.notUp, Nat.not_lt.mp h.short⟩

theorem IsEntryName.ofText {name : String} (h : IsEntryName name) : Path.ofText name = ⟨"", [name]⟩ := by
  have hr : rootOf name = "" := by
    cases hn : name.toList with
    | nil => simp [rootOf, hn]
    | cons c cs =>
      have hc : c ≠ '/' := by rintro rfl; exact h.noSlash (by simp [hn])
      simp [rootOf, hn, hc]
  have he : name.toList ≠ [] := by simpa using h.notEmpty
  have hd : name.toList ≠ ['.'] := fun hd => h.notHere (by rw [← String.ofList_toList (s := name), hd])
  simp [Path.ofText, hr, partsOf, Text.splitOnChar_of_not_mem h.noSlash, he, hd]

/-- A place all of whose names lead to directories. -/
structure IsDirectory (t : Tree) (place : Location) : Prop where
  names : ∀ n ∈ place, IsEntryName n
  dirs : ∀ n, t.get? (place.take n) = some .dir

variable {t : Tree} {place : Location} {name : String}

/-- Names that lead to directories are walked one after the other. -/
theorem walk_names (names : List String) (start : Location) (hn : ∀ n ∈ names, IsEntryName n)
    (hd : ∀ n, t.get? (start ++ names.take (n + 1)) = some .dir ∨ names.length ≤ n) (follow : Bool) (links : Nat)
    (rest : List String) : t.walk follow links start (names ++ rest) = t.walk follow links (start ++ names) rest := by
  induction names generalizing start with
  | nil => simp
  | cons name names ih =>
    have h := hn name List.mem_cons_self
    have h0 : t.get? (start ++ [name]) = some .dir := by simpa using hd 0
    rw [List.cons_append, walk_name h.lookedUp, h0]
    simp only
    rw [ih (start ++ [name]) (fun n hm => hn n (List.mem_cons_of_mem _ hm)) fun n => ?_]
    · simp
    · have := hd (n + 1)
      simpa using this

theorem walk_directory (h : IsDirectory t place) (follow : Bool) (links : Nat) (rest : List String) :
    t.walk follow links [] (place ++ rest) = t.walk follow links place rest := by
  have := walk_names place [] h.names (fun n => Or.inl (by simpa using h.dirs (n + 1))) follow links rest
  simpa using this

theorem walk_to_directory (h : IsDirectory t place) (follow : Bool) (links : Nat) :
    t.walk follow links [] place = .ok (.found place .dir) := by
  have := walk_directory h follow links []
  rw [List.append_nil] at this
  rw [this, walk]

theorem hasNull_directory (h : IsDirectory t place) : hasNull ⟨"/", place⟩ = false := by
  simp only [hasNull, List.any_eq_false]
  intro n hm
  simpa using (h.names n hm).notNull

theorem hasNull_file (h : IsDirectory t place) (hn : IsEntryName name) : hasNull ⟨"/", place ++ [name]⟩ = false := by
  have := hasNull_directory h
  simp only [hasNull, List.any_append, List.any_cons, List.any_nil, Bool.or_false] at this ⊢
  rw [this, hn.notNull]
  rfl

theorem startOf_absolute (t : Tree) (place : Location) : t.startOf ⟨"/", place⟩ = [] := by
  simp [startOf, Path.isAbsolute]

theorem find_directory (h : IsDirectory t place) (follow : Bool) : t.find follow ⟨"/", place⟩ = .ok (.found place .dir) :=
  find_eq_ok.mpr ⟨hasNull_directory h, by rw [startOf_absolute, walk_to_directory h]⟩

/-- A directory that is there is not made again. -/
theorem makeDirs_directory (h : IsDirectory t place) : t.makeDirs ⟨"/", place⟩ = ⟨t, none⟩ := by
  have hf := find_directory h false
  have he : t.entry? ⟨"/", place⟩ = .ok (some .dir) := by
    simp [ entry?, hasNull_directory h, startOf_absolute, walk_to_directory h]
  have hm : t.makeDir ⟨"/", place⟩ = .error (.onPath .taken (⟨"/", place⟩ : Path).text) := by
    simp [makeDir, hf, bind, Except.bind]
  have hu : t.unlessDir ⟨"/", place⟩ (.onPath .taken (⟨"/", place⟩ : Path).text) = ⟨t, none⟩ := by
    simp [unlessDir, Trouble.isSystem, he]
  rw [makeDirs]
  cases hr : place.reverse with
  | nil =>
    obtain rfl : place = [] := by simpa using hr
    rw [makeDirsAt, hm]
    exact hu
  | cons part parts =>
    rw [makeDirsAt, ← hr, List.reverse_reverse, hm]
    simp [Trouble.isNoEntry, hu]

theorem plainLocation_names (names : List String) (start : Location) (hn : ∀ n ∈ names, IsEntryName n) :
    plainLocation start names = start ++ names := by
  refine plainLocation_of_not_mem ?_ ?_ start
  · intro hm
    exact (hn _ hm).notHere rfl
  · intro hm
    exact (hn _ hm).notUp rfl

/-- A file of a directory goes to the place of its name. -/
theorem replace_directory (h : IsDirectory t place) (hn : IsEntryName name) (hd : t.get? (place ++ [name]) ≠ some .dir)
    (bytes : ByteArray) :
    t.replace ⟨"/", place ++ [name]⟩ bytes = .ok (t.put (place ++ [name]) (.file bytes)) := by
  have hdir : t.temporaryDir ⟨"/", place ++ [name]⟩ = ⟨"/", place⟩ := by
    simp [temporaryDir, Path.isAbsolute, startOf, Path.parent, plainLocation_names place [] h.names]
  have hname : (⟨"/", place ++ [name]⟩ : Path).name = name := by simp [Path.name]
  have ht : ∀ temporary, t.temporaryTrouble? ⟨"/", place⟩ name temporary = none := by
    intro temporary
    simp [temporaryTrouble?, walk_to_directory h, hn.fits]
  unfold replace
  simp only [hasNull_file h hn, hdir, hname, ht, startOf_absolute, Bool.false_eq_true, if_false]
  rw [walk_directory h, walk_name hn.lookedUp]
  have hb : (name.isEmpty || name == "..") = false := by simp [hn.notEmpty, hn.notUp]
  cases hg : t.get? (place ++ [name]) with
  | none => simp
  | some entry =>
    cases entry with
    | dir => exact absurd hg hd
    | file old => simp [hb]
    | link target => simp [hb]

/-- None is replaced at a directory. -/
theorem replace_isDirectory (h : IsDirectory t place) (bytes : ByteArray) :
    ∃ e, t.replace ⟨"/", place⟩ bytes = .error e := by
  cases hr : t.replace ⟨"/", place⟩ bytes with
  | error e => exact ⟨e, rfl⟩
  | ok t' =>
    have hwalk : t.walk false maxLinks (t.startOf ⟨"/", place⟩) place = .ok (.found place .dir) := by
      rw [startOf_absolute, walk_to_directory h]
    rcases (replace_cases hr).2 with ⟨parent, name, hw, -⟩ | ⟨found, e, hw, he, -⟩
    · rw [hwalk] at hw
      cases hw
    · rw [hwalk] at hw
      cases hw
      exact absurd rfl he

theorem destination?_directory (h : IsDirectory t place) (hn : IsEntryName name) :
    t.destination? false ⟨"/", place ++ [name]⟩ = some (place ++ [name]) := by
  simp only [destination?, startOf_absolute]
  rw [walk_directory h, walk_name hn.lookedUp]
  cases hg : t.get? (place ++ [name]) with
  | none => simp
  | some entry =>
    cases entry with
    | dir => simp [walk]
    | file old => simp
    | link target => simp

/-- A file that is put beside or below a directory leaves it one. -/
theorem IsDirectory.put (h : IsDirectory t place) {q : Location} (hq : t.get? q ≠ some .dir) (e : Entry) :
    IsDirectory (t.put q e) place := by
  refine ⟨h.names, fun n => ?_⟩
  by_cases hn : place.take n = q
  · exact absurd (hn ▸ h.dirs n) hq
  · rw [get?_put_ne t hn, h.dirs n]

/-- A file makes no directory. -/
theorem get?_put_file_ne_dir (hne : place ≠ []) {q : Location} (hq : t.get? q ≠ some .dir) (bytes : ByteArray) :
    (t.put place (.file bytes)).get? q ≠ some .dir := by
  by_cases he : q = place
  · rw [he, get?_put_self _ hne]
    simp
  · rwa [get?_put_ne _ he]

/-- A directory in the root. -/
theorem isDirectory_of_dir (hn : IsEntryName name) (h : t.get? [name] = some .dir) : IsDirectory t [name] := by
  refine ⟨fun n hmem => ?_, fun n => ?_⟩
  · rwa [List.mem_singleton.mp hmem]
  · rcases n with _ | n
    · rfl
    · rwa [List.take_succ_cons, List.take_nil]

/-- A tree with one directory alone. -/
theorem isDirectory_single (hn : IsEntryName name) : IsDirectory ⟨[], [([name], .dir)]⟩ [name] :=
  isDirectory_of_dir hn (by simp [Tree.get?, Data.Entries.get?])

/-! ## Looking up -/

theorem resolveNames_names (fuel : Nat) (names : List String) (start : Location) (hn : ∀ n ∈ names, IsEntryName n)
    (hd : ∀ n, t.get? (start ++ names.take (n + 1)) = some .dir ∨ names.length ≤ n) :
    t.resolveNames fuel [] start names = .ok (start ++ names) := by
  induction names generalizing start with
  | nil => simp [resolveNames]
  | cons name names ih =>
    have h := hn name List.mem_cons_self
    have h0 : t.get? (start ++ [name]) = some .dir := by simpa using hd 0
    rw [resolveNames, if_neg (by simpa using h.notHere), if_neg (by simpa using h.notUp), h0]
    simp only
    rw [ih (start ++ [name]) (fun n hm => hn n (List.mem_cons_of_mem _ hm)) fun n => ?_]
    · simp
    · have := hd (n + 1)
      simpa using this

/-- A path whose names lead to directories has no links. -/
theorem resolve_directory (h : IsDirectory t place) : t.resolve ⟨"/", place⟩ = .ok ⟨"/", place⟩ := by
  have := resolveNames_names t.entries.length place [] h.names fun n => Or.inl (by simpa using h.dirs (n + 1))
  simp [resolve, hasNull_directory h, startOf_absolute, this]

theorem walk_to_file {bytes : ByteArray} (h : IsDirectory t place) (hn : IsEntryName name)
    (hf : t.get? (place ++ [name]) = some (.file bytes)) (follow : Bool) (links : Nat) :
    t.walk follow links [] (place ++ [name]) = .ok (.found (place ++ [name]) (.file bytes)) := by
  rw [walk_directory h, walk_name hn.lookedUp, hf]
  simp

theorem find_file {bytes : ByteArray} (h : IsDirectory t place) (hn : IsEntryName name)
    (hf : t.get? (place ++ [name]) = some (.file bytes)) (follow : Bool) :
    t.find follow ⟨"/", place ++ [name]⟩ = .ok (.found (place ++ [name]) (.file bytes)) :=
  find_eq_ok.mpr ⟨hasNull_file h hn, by rw [startOf_absolute, walk_to_file h hn hf]⟩

theorem entry?_file {bytes : ByteArray} (h : IsDirectory t place) (hn : IsEntryName name)
    (hf : t.get? (place ++ [name]) = some (.file bytes)) :
    t.entry? ⟨"/", place ++ [name]⟩ = .ok (some (.file bytes)) := by
  simp [ entry?, hasNull_file h hn, startOf_absolute, walk_to_file h hn hf]

/-- The text of a file that was encoded from lines that end in line feeds. -/
theorem readText_file {text : String} (h : IsDirectory t place) (hn : IsEntryName name)
    (hf : t.get? (place ++ [name]) = some (.file (Text.Utf8.encode text)))
    (hd : Text.Utf8.decode (Text.Utf8.encode text) = .ok text) (hl : '\r' ∉ text.toList) :
    t.readText ⟨"/", place ++ [name]⟩ = .ok text := by
  have hread : t.read ⟨"/", place ++ [name]⟩ = .ok (Text.Utf8.encode text) := by
    simp only [read, find_file h hn hf, bind, Except.bind]
  have htext : (Text.Utf8.decode (Text.Utf8.encode text)).mapError ReadError.undecodable = .ok text := by
    rw [hd]
    rfl
  unfold readText
  rw [hread]
  show (Except.mapError ReadError.undecodable (Text.Utf8.decode (Text.Utf8.encode text)) >>= fun text =>
    Except.ok (String.ofList (Text.normalNewlines text.toList))) = Except.ok text
  rw [htext]
  show Except.ok (String.ofList (Text.normalNewlines text.toList)) = Except.ok text
  rw [Text.normalNewlines_eq_self hl, String.ofList_toList]

theorem read_directory (h : IsDirectory t place) :
    t.read ⟨"/", place⟩ = .error (.onPath .isDirectory (⟨"/", place⟩ : Path).text) := by
  simp only [read, find_directory h, bind, Except.bind]

end CrudQueries.Files.Tree
