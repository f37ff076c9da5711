/-
  CrudQueries.Proofs.Files.Named — files at absolute paths of names.

  In a well-formed tree a file whose directory is there is replaced unless its temporary name is too long or a
  directory has its name (`replace_plain`), and it is read at its path if there are no links (`Plain.read`). Every path
  is resolved to such a path of names, unless no file can have it (`names_of_resolve`, `names_of_resolve_links`).
-/

import CrudQueries.Proofs.Files.Ways
import CrudQueries.Proofs.Text.Lines

namespace CrudQueries.Files.Tree

variable {t u : Tree} {place names q : Location} {name : String} {bytes : ByteArray}

/-! ## Files -/

/-- The path of a file: it has a root, and its parts are names. -/
structure IsFileAt (p : Path) (place : Location) (name : String) : Prop where
  root : p.root ≠ ""
  parts : p.parts = place ++ [name]
  names : ∀ n ∈ place ++ [name], IsName n

variable {p : Path}

theorem IsFileAt.eq (h : IsFileAt p place name) : p = ⟨p.root, place ++ [name]⟩ := by
  rw [← h.parts]

theorem IsFileAt.parent_eq (h : IsFileAt p place name) : p.parent = ⟨p.root, place⟩ := by
  rw [h.eq]
  simp [Path.parent]

theorem IsFileAt.parent_names (h : IsFileAt p place name) : ∀ n ∈ place, IsName n :=
  fun n hn => h.names n (List.mem_append_left _ hn)

theorem IsFileAt.name_eq (h : IsFileAt p place name) : p.name = name := by
  simp [Path.name, h.parts]

theorem IsFileAt.isName (h : IsFileAt p place name) : IsName name := h.names name (by simp)

theorem IsFileAt.hasNull (h : IsFileAt p place name) : hasNull p = false := by
  rw [h.eq]
  exact hasNull_names h.names

theorem IsFileAt.startOf (h : IsFileAt p place name) (t : Tree) : t.startOf p = [] := by
  rw [h.eq]
  exact startOf_root t h.root _

/-- Below a directory a relative path is that of a file. -/
theorem isFileAt_join {out : Path} {path : String} {folders : Location} (hroot : out.root ≠ "")
    (hn : ∀ n ∈ out.parts, IsName n) (habs : (Path.ofText path).isAbsolute = false)
    (hparts : partsOf path = folders ++ [name]) (hnames : ∀ n ∈ folders ++ [name], IsName n) :
    IsFileAt (out.join (Path.ofText path)) (out.parts ++ folders) name := by
  have hjoin : out.join (Path.ofText path) = ⟨out.root, out.parts ++ partsOf path⟩ := by
    rw [Path.join, habs, if_neg Bool.false_ne_true]
    rfl
  refine ⟨by rwa [hjoin], by rw [hjoin, hparts, List.append_assoc], fun n hm => ?_⟩
  rw [List.append_assoc] at hm
  exact (List.mem_append.mp hm).elim (hn n) (hnames n)

/-- The path of a temporary file. -/
def temporaryPath (p : Path) : Path := p.parent.join ⟨"", [temporaryName p.name]⟩

/-- The temporary file lies in the directory of the file. -/
theorem temporaryDir_plain (t : Tree) (h : IsFileAt p place name) : t.temporaryDir p = ⟨p.root, place⟩ := by
  have hplain : plainLocation [] place = place :=
    plainLocation_of_not_mem (fun hm => (h.parent_names _ hm).notHere rfl) (fun hm => (h.parent_names _ hm).notUp rfl) []
  rw [temporaryDir, h.startOf, h.parent_eq, hplain, if_pos (by simp [Path.isAbsolute, h.root])]

/-- In a directory a temporary file is made unless its name is too long. -/
theorem temporaryTrouble?_plain (hw : t.WellFormed) (hdir : t.get? place = some .dir) (root name text : String) :
    t.temporaryTrouble? ⟨root, place⟩ name text =
      if temporaryNameSize name > maxNameSize then some (.onPath .nameTooLong text) else none := by
  rw [temporaryTrouble?, hw.walk_there hdir]

/-- A name that is short enough with what makes it temporary is so without. -/
theorem fits_of_temporaryNameSize (h : ¬ temporaryNameSize name > maxNameSize) : fits name = true := by
  simp only [temporaryNameSize] at h
  simp only [fits, decide_eq_true_eq]
  omega

/-- In a directory a file is replaced unless the name of the temporary file is too long or a directory has its name. -/
theorem replace_plain (hw : t.WellFormed) (h : IsFileAt p place name) (hdir : t.get? place = some .dir) (bytes : ByteArray) :
    t.replace p bytes =
      if temporaryNameSize name > maxNameSize then .error (.onPath .nameTooLong (temporaryPath p).text)
      else if t.get? (place ++ [name]) = some .dir then .error (.moving .isDirectory (temporaryPath p).text p.text)
      else .ok (t.put (place ++ [name]) (.file bytes)) := by
  unfold replace
  simp only [h.hasNull, temporaryDir_plain t h, h.name_eq, temporaryTrouble?_plain hw hdir, h.startOf t, h.parts,
    Bool.false_eq_true, if_false]
  rw [temporaryPath, h.name_eq, h.parent_eq]
  by_cases hlong : temporaryNameSize name > maxNameSize
  · simp only [hlong, if_true]
  · have hnamed : (name.isEmpty || name == "..") = false := by simp [h.isName.notEmpty, h.isName.notUp]
    simp only [hlong, if_false]
    rw [hw.walk_dir hdir, walk_name (lookedUp_of_fits h.isName (fits_of_temporaryNameSize hlong))]
    cases hg : t.get? (place ++ [name]) with
    | none => simp
    | some e =>
      cases e with
      | dir => simp [walk, hnamed]
      | file old => simp [hnamed]
      | link target => simp [hnamed]

section put

variable (hdir : t.get? place = some .dir) (hn : IsName name) (hfits : fits name = true)
  (hfree : t.get? (place ++ [name]) ≠ some .dir)
include hdir hn hfits hfree

/-- A file in a directory leaves the tree well-formed. -/
theorem WellFormed.put (hw : t.WellFormed) (bytes : ByteArray) : (t.put (place ++ [name]) (.file bytes)).WellFormed where
  closed q n e he := by
    have hq : q ≠ place ++ [name] → (t.put (place ++ [name]) (.file bytes)).get? q = t.get? q :=
      fun hne => get?_put_ne t hne _
    by_cases hsame : q ++ [n] = place ++ [name]
    · obtain ⟨rfl, -⟩ := List.append_inj' hsame rfl
      rw [hq (by simp), hdir]
    · rw [get?_put_ne t hsame] at he
      have hparent := hw.closed q n e he
      have hne : q ≠ place ++ [name] := by
        rintro rfl
        exact hfree hparent
      rw [hq hne, hparent]
  names q n e he := by
    by_cases hsame : q ++ [n] = place ++ [name]
    · obtain ⟨-, hlast⟩ := List.append_inj' hsame rfl
      obtain rfl : n = name := by simpa using hlast
      exact ⟨hn, by simpa [fits] using hfits⟩
    · rw [get?_put_ne t hsame] at he
      exact hw.names q n e he
  here := hw.here

theorem Plain.put (hp : t.Plain) (bytes : ByteArray) : (t.put (place ++ [name]) (.file bytes)).Plain where
  toWellFormed := hp.toWellFormed.put hdir hn hfits hfree bytes
  noLinks q target := by
    by_cases hsame : q = place ++ [name]
    · rw [hsame, get?_put_self t (by simp)]
      simp
    · rw [get?_put_ne t hsame]
      exact hp.noLinks q target

end put

/-- A file that is there is read. -/
theorem Plain.read (hp : t.Plain) (h : IsFileAt p place name) (hf : t.get? (place ++ [name]) = some (.file bytes)) :
    t.read p = .ok bytes := by
  have hwalk : t.walk true maxLinks [] (place ++ [name] ++ []) = .ok (.found (place ++ [name]) (.file bytes)) :=
    hp.walk_blocked hf []
  rw [List.append_nil] at hwalk
  rw [h.eq, Tree.read, find_names t h.root h.names, hwalk]
  rfl

/-! ## Resolving -/

/-- Without links the names of a path are taken one after the other. -/
theorem resolveNames_noLinks (h : NoLinks t) (fuel : Nat) (within : List Location) (start : Location) (names : List String) :
    t.resolveNames fuel within start names = .ok (plainLocation start names) := by
  have hstep : ∀ (start : Location) (name : String) (rest : List String), plainLocation start (name :: rest) =
      plainLocation (if name == "." then start else if name == ".." then start.dropLast else start ++ [name]) rest :=
    fun _ _ _ => rfl
  induction names generalizing start with
  | nil =>
    rw [resolveNames]
    rfl
  | cons name rest ih =>
    rw [resolveNames, hstep]
    by_cases hhere : (name == ".") = true
    · rw [if_pos hhere, if_pos hhere, ih]
    · rw [if_neg hhere, if_neg hhere]
      by_cases hup : (name == "..") = true
      · rw [if_pos hup, if_pos hup, ih]
      · rw [if_neg hup, if_neg hup]
        cases hg : t.get? (start ++ [name]) with
        | none => exact ih _
        | some e =>
          cases e with
          | link target => exact absurd hg (h _ _)
          | dir => exact ih _
          | file bytes => exact ih _

theorem resolve_noLinks (h : NoLinks t) (p : Path) :
    t.resolve p = if hasNull p then .error .nullCharacter else .ok ⟨"/", t.namedLocation p⟩ := by
  rw [resolve, resolveNames_noLinks h]
  rfl

/-- So it does not depend on what is there. -/
theorem resolve_of_here (h : NoLinks t) (h' : NoLinks u) (hhere : u.here = t.here) (p : Path) :
    u.resolve p = t.resolve p := by
  rw [resolve_noLinks h', resolve_noLinks h, namedLocation, startOf_of_here hhere]
  rfl

theorem mem_plainLocation {n : String} {start : Location} (h : n ∈ plainLocation start names) :
    n ∈ start ∨ (n ∈ names ∧ n ≠ "." ∧ n ≠ "..") := by
  induction names generalizing start with
  | nil => exact .inl h
  | cons name rest ih =>
    have hrest : n ∈ rest ∧ n ≠ "." ∧ n ≠ ".." → n ∈ start ∨ (n ∈ name :: rest ∧ n ≠ "." ∧ n ≠ "..") :=
      fun ⟨hm, hne⟩ => .inr ⟨List.mem_cons_of_mem _ hm, hne⟩
    rw [plainLocation, List.foldl_cons] at h
    rcases ih h with hm | hm
    · split at hm
      · exact .inl hm
      · rename_i hhere
        split at hm
        · exact .inl (List.dropLast_subset _ hm)
        · rename_i hup
          rcases List.mem_append.mp hm with hm | hm
          · exact .inl hm
          · obtain rfl := List.mem_singleton.mp hm
            exact .inr ⟨List.mem_cons_self, by simpa using hhere, by simpa using hup⟩
    · exact hrest hm

/-- The parts of a text are no directions to where one is, and have no slash. -/
theorem mem_partsOf {text n : String} (h : n ∈ partsOf text) :
    n ≠ "" ∧ n ≠ "." ∧ '/' ∉ n.toList ∧ ∀ c ∈ n.toList, c ∈ text.toList := by
  obtain ⟨part, hpart, rfl⟩ := List.mem_map.mp h
  obtain ⟨hcut, hkept⟩ := List.mem_filter.mp hpart
  simp only [Bool.and_eq_true, bne_iff_ne] at hkept
  obtain ⟨hslash, hsub⟩ := Text.mem_splitOnChar hcut
  refine ⟨fun he => hkept.1 ?_, fun he => hkept.2 ?_, by rwa [String.toList_ofList], by rwa [String.toList_ofList]⟩
  · rw [← String.toList_ofList (l := part), he]
    rfl
  · rw [← String.toList_ofList (l := part), he]
    rfl

/-- In a well-formed tree without links a path is resolved to names. -/
theorem names_of_resolve (hp : t.Plain) {text : String} {out : Path} (h : t.resolve (Path.ofText text) = .ok out) :
    out.root = "/" ∧ ∀ n ∈ out.parts, IsName n := by
  rw [resolve_noLinks hp.noLinks] at h
  split at h
  · cases h
  · rename_i hnull
    obtain rfl := Except.ok.inj h
    refine ⟨rfl, fun n hn => ?_⟩
    rcases mem_plainLocation hn with hn | ⟨hn, hhere, hup⟩
    · rw [startOf] at hn
      split at hn
      · cases hn
      · exact hp.here n hn
    · obtain ⟨hempty, -, hslash, -⟩ := mem_partsOf hn
      rw [hasNull, Bool.not_eq_true, List.any_eq_false] at hnull
      exact ⟨hempty, hhere, hup, hslash, by simpa using hnull n hn⟩

/-- The names in the target of a link are not empty and have no slash. -/
theorem mem_targetNames {target n : String} (h : n ∈ targetNames target) : n ≠ "" ∧ '/' ∉ n.toList := by
  simp only [targetNames, List.mem_append, List.mem_filter, List.mem_map] at h
  rcases h with ⟨⟨part, hpart, rfl⟩, hne⟩ | hdot
  · refine ⟨by simpa using hne, ?_⟩
    rw [String.toList_ofList]
    exact (Text.mem_splitOnChar hpart).1
  · split at hdot
    · obtain rfl := List.mem_singleton.mp hdot
      decide
    · cases hdot

/-- What holds of the names of a path, of where it begins, and of the targets of links holds of the names that the path
  is resolved to. -/
theorem resolveNames_all (t : Tree) {P : String → Prop}
    (htarget : ∀ target, ∀ n ∈ targetNames target, n ≠ "." → n ≠ ".." → P n) (fuel : Nat) (within : List Location)
    {start : Location} {names : List String} (hstart : ∀ n ∈ start, P n)
    (hnames : ∀ n ∈ names, n ≠ "." → n ≠ ".." → P n) :
    match t.resolveNames fuel within start names with
    | .ok place => ∀ n ∈ place, P n
    | .error names => ∀ n ∈ names, n ≠ "." → n ≠ ".." → P n := by
  have htargetStart : ∀ {place : Location} (target : String), (∀ n ∈ place, P n) → ∀ n ∈ targetStart place target, P n := by
    intro place target hplace
    rw [targetStart]
    split
    · nofun
    · exact hplace
  have hlater : ∀ {place : Location} {name : String} {rest : List String}, (∀ n ∈ place, P n) →
      (∀ n ∈ name :: rest, n ≠ "." → n ≠ ".." → P n) → ∀ n ∈ place ++ [name] ++ rest, n ≠ "." → n ≠ ".." → P n := by
    intro place name rest hplace hall n hn hhere hup
    rw [List.append_assoc, List.singleton_append] at hn
    exact (List.mem_append.mp hn).elim (hplace n) fun hn => hall n hn hhere hup
  fun_induction resolveNames t fuel within start names with
  | case1 => exact hstart
  | case2 =>
    rename_i ih
    exact ih hstart fun n hn => hnames n (List.mem_cons_of_mem _ hn)
  | case3 =>
    rename_i ih
    exact ih (fun n hn => hstart n (List.dropLast_subset _ hn)) fun n hn => hnames n (List.mem_cons_of_mem _ hn)
  | case4 | case5 => exact hlater hstart hnames
  | case6 =>
    -- The target is resolved first, from where it begins.
    rename_i target _ _ _ _ hwithin ihTarget ihRest
    have hplace := ihTarget (htargetStart target hstart) (htarget target)
    rw [hwithin] at hplace
    exact ihRest hplace fun n hn => hnames n (List.mem_cons_of_mem _ hn)
  | case7 =>
    -- What is left of the target comes before the rest.
    rename_i target _ _ _ _ hwithin ihTarget
    have hleft := ihTarget (htargetStart target hstart) (htarget target)
    rw [hwithin] at hleft
    intro n hn hhere hup
    exact (List.mem_append.mp hn).elim (fun hn => hleft n hn hhere hup) fun hn =>
      hnames n (List.mem_cons_of_mem _ hn) hhere hup
  | case8 =>
    rename_i hhere hup _ ih
    refine ih (fun n hn => ?_) fun n hn => hnames n (List.mem_cons_of_mem _ hn)
    rcases List.mem_append.mp hn with hn | hn
    · exact hstart n hn
    · obtain rfl := List.mem_singleton.mp hn
      exact hnames n List.mem_cons_self (by simpa using hhere) (by simpa using hup)

/-- With links too, unless their targets have null characters. -/
theorem names_of_resolve_links (hw : t.WellFormed) {text : String} {out : Path}
    (h : t.resolve (Path.ofText text) = .ok out) (hnull : hasNull out = false) :
    out.root = "/" ∧ ∀ n ∈ out.parts, IsName n := by
  -- Without the null character, which a target may have: only `hnull` rules it out.
  let P (n : String) : Prop := n ≠ "" ∧ n ≠ "." ∧ n ≠ ".." ∧ '/' ∉ n.toList
  have hstart : ∀ n ∈ t.startOf (Path.ofText text), P n := by
    intro n hn
    rw [startOf] at hn
    split at hn
    · cases hn
    · exact ⟨(hw.here n hn).notEmpty, (hw.here n hn).notHere, (hw.here n hn).notUp, (hw.here n hn).noSlash⟩
  have hnames : ∀ n ∈ (Path.ofText text).parts, n ≠ "." → n ≠ ".." → P n := fun n hn hhere hup =>
    ⟨(mem_partsOf hn).1, hhere, hup, (mem_partsOf hn).2.2.1⟩
  have htarget : ∀ target, ∀ n ∈ targetNames target, n ≠ "." → n ≠ ".." → P n := fun target n hn hhere hup =>
    ⟨(mem_targetNames hn).1, hhere, hup, (mem_targetNames hn).2⟩
  have hall := resolveNames_all t htarget t.entries.length [] hstart hnames
  have hparts : out.root = "/" ∧ ∀ n ∈ out.parts, P n := by
    unfold resolve at h
    split at h
    · cases h
    · split at h
      · rename_i place hplace
        obtain rfl := Except.ok.inj h
        rw [hplace] at hall
        exact ⟨rfl, hall⟩
      · rename_i names hleft
        rw [hleft] at hall
        simp only at h
        split at h
        · cases h
        · obtain rfl := Except.ok.inj h
          refine ⟨rfl, fun n hn => ?_⟩
          obtain ⟨hn, hhere, hup⟩ := (mem_plainLocation hn).resolve_left (by simp)
          exact hall n hn hhere hup
  refine ⟨hparts.1, fun n hn => ?_⟩
  obtain ⟨hempty, hhere, hup, hslash⟩ := hparts.2 n hn
  rw [hasNull, List.any_eq_false] at hnull
  exact ⟨hempty, hhere, hup, hslash, by simpa using hnull n hn⟩

end CrudQueries.Files.Tree
