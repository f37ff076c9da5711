/-
  CrudQueries.Proofs.Files.Ways — what a path meets on its way.

  Where no link stands on the way (`LinkFree`), as in a well-formed tree without links (`Plain`), the names of a path
  lead to a directory, or past a file, or to the first name that is missing or too long (`Way`). If a file stands on
  the way no directory is made (`makeDirs_blocked`). Otherwise all are made that come before the first name that is
  too long (`madeAlong_makeDirs`); the trouble is then that name, but which path the message names depends on how many
  of them were there before.
-/

import CrudQueries.Proofs.Files.Leading
import CrudQueries.Proofs.Files.WellFormed
import Mathlib.Data.List.TakeWhile

namespace CrudQueries.Files.Tree

/-- A well-formed tree without links. -/
structure Plain (t : Tree) : Prop extends WellFormed t where
  noLinks : NoLinks t

theorem noLinks_iff {t : Tree} : NoLinks t ↔ ∀ k ∈ t.entries, (t.get? k.1).all (fun e => Entry.isDir e || Entry.isFile e) = true := by
  constructor
  · intro h k _
    cases hg : t.get? k.1 with
    | none => rfl
    | some e =>
      cases e with
      | link target => exact absurd hg (h _ _)
      | dir | file => rfl
  · intro h q target hg
    by_cases hq : q = []
    · rw [hq] at hg
      cases hg
    · have hall := h _ (mem_of_get? hg hq)
      rw [hg] at hall
      cases hall

instance (t : Tree) : Decidable t.Plain :=
  decidable_of_iff (t.WellFormed ∧ ∀ k ∈ t.entries, (t.get? k.1).all (fun e => Entry.isDir e || Entry.isFile e) = true)
    ⟨fun ⟨hw, hn⟩ => ⟨hw, noLinks_iff.mpr hn⟩, fun h => ⟨h.toWellFormed, noLinks_iff.mp h.noLinks⟩⟩

/-! ## The way of names -/

/-- Can an entry have a name of this length? -/
def fits (name : String) : Bool := name.utf8ByteSize ≤ maxNameSize

/-- What names meet on their way from the root. -/
inductive Way (t : Tree) : Location → Prop where
  | there {place : Location} (h : t.get? place = some .dir) : Way t place
  | blocked {place : Location} (rest : Location) {bytes : ByteArray} (h : t.get? place = some (.file bytes)) : Way t (place ++ rest)
  | absent {place : Location} {name : String} (rest : Location) (hdir : t.get? place = some .dir) (hfits : fits name = true)
      (h : t.get? (place ++ [name]) = none) : Way t (place ++ name :: rest)
  | long {place : Location} {name : String} (rest : Location) (hdir : t.get? place = some .dir)
      (h : fits name = false) : Way t (place ++ name :: rest)

variable {t u : Tree} {place names rest q : Location} {name root : String} {bytes : ByteArray} {links : Nat} {follow : Bool}

/-- No link stands on the way of names. -/
def LinkFree (t : Tree) (names : Location) : Prop := ∀ q, q <+: names → ∀ target, t.get? q ≠ some (.link target)

theorem LinkFree.of_prefix (h : t.LinkFree (names ++ rest)) : t.LinkFree names :=
  fun q hq => h q (hq.trans (List.prefix_append names rest))

theorem LinkFree.way (hl : t.LinkFree names) : Way t names := by
  induction names using List.reverseRecOn with
  | nil => exact .there (get?_nil t)
  | append_singleton names name ih =>
    cases ih hl.of_prefix with
    | there h =>
      cases hfits : fits name with
      | false => exact .long [] h hfits
      | true =>
        cases hg : t.get? (names ++ [name]) with
        | none => exact .absent [] h hfits hg
        | some e =>
          cases e with
          | dir => exact .there hg
          | file bytes => simpa using Way.blocked [] hg
          | link target => exact absurd hg (hl _ List.prefix_rfl target)
    | blocked rest h => simpa using Way.blocked (rest ++ [name]) h
    | absent rest hdir hfits h => simpa using Way.absent (rest ++ [name]) hdir hfits h
    | long rest hdir h => simpa using Way.long (rest ++ [name]) hdir h

theorem Plain.linkFree (hp : t.Plain) (names : Location) : t.LinkFree names := fun q _ => hp.noLinks q

theorem Plain.way (hp : t.Plain) (names : Location) : Way t names := (hp.linkFree names).way

/-- None stands on the way of a directory. -/
theorem WellFormed.linkFree (hw : t.WellFormed) (h : t.get? names = some .dir) : t.LinkFree names := by
  intro q hq target hlink
  by_cases hsame : q = names
  · rw [hsame, h] at hlink
    cases hlink
  · rw [hw.dir_of_prefix h hq hsame] at hlink
    cases hlink

/-! ## Walks -/

theorem lookedUp_of_fits (hn : IsName name) (hfits : fits name = true) : LookedUp name :=
  ⟨hn.notHere, hn.notUp, by simpa [fits] using hfits⟩

theorem WellFormed.fits_of_get? (hw : t.WellFormed) {e : Entry} (h : t.get? q = some e) (n : String) (hn : n ∈ q) :
    IsName n ∧ fits n = true := by
  obtain ⟨hname, hsize⟩ := hw.names_of_get? h n hn
  exact ⟨hname, by simpa [fits] using hsize⟩

/-- A walk passes directories. -/
theorem WellFormed.walk_dir (hw : t.WellFormed) (h : t.get? place = some .dir) (rest : Location) :
    t.walk follow links [] (place ++ rest) = t.walk follow links place rest := by
  induction place using List.reverseRecOn generalizing rest with
  | nil => rfl
  | append_singleton place name ih =>
    obtain ⟨hname, hfits⟩ := hw.fits_of_get? h name (by simp)
    rw [List.append_assoc, ih (hw.closed place name _ h), List.singleton_append, walk_name (lookedUp_of_fits hname hfits), h]

theorem WellFormed.walk_there (hw : t.WellFormed) (h : t.get? place = some .dir) :
    t.walk follow links [] place = .ok (.found place .dir) := by
  have hwalk : t.walk follow links [] (place ++ []) = t.walk follow links place [] := hw.walk_dir h []
  rw [List.append_nil] at hwalk
  rw [hwalk, walk]

theorem WellFormed.walk_blocked (hw : t.WellFormed) (h : t.get? place = some (.file bytes)) (rest : Location) :
    t.walk follow links [] (place ++ rest) =
      if rest.isEmpty then .ok (.found place (.file bytes)) else .error .notDirectory := by
  induction place using List.reverseRecOn with
  | nil => cases h
  | append_singleton place name _ =>
    obtain ⟨hname, hfits⟩ := hw.fits_of_get? h name (by simp)
    rw [List.append_assoc, hw.walk_dir (hw.closed place name _ h), List.singleton_append, walk_name (lookedUp_of_fits hname hfits), h]

theorem WellFormed.walk_absent (hw : t.WellFormed) (hdir : t.get? place = some .dir) (hn : IsName name)
    (hfits : fits name = true) (h : t.get? (place ++ [name]) = none) (rest : Location) :
    t.walk follow links [] (place ++ name :: rest) =
      if rest.isEmpty then .ok (.missing place name) else .error .noEntry := by
  rw [hw.walk_dir hdir, walk_name (lookedUp_of_fits hn hfits), h]

theorem WellFormed.walk_long (hw : t.WellFormed) (hdir : t.get? place = some .dir) (hn : IsName name)
    (h : fits name = false) (rest : Location) :
    t.walk follow links [] (place ++ name :: rest) = .error .nameTooLong := by
  rw [hw.walk_dir hdir]
  exact walks_iff.mp (.long hn.notHere hn.notUp (by simpa [fits] using h))

/-! ## Paths -/

theorem startOf_root (t : Tree) (hroot : root ≠ "") (names : Location) : t.startOf ⟨root, names⟩ = [] := by
  simp [startOf, Path.isAbsolute, hroot]

theorem hasNull_names (hn : ∀ n ∈ names, IsName n) : hasNull ⟨root, names⟩ = false := by
  simp only [hasNull, List.any_eq_false]
  intro n hm
  simpa using (hn n hm).notNull

/-- An absolute path of names is found where the walk along it ends. -/
theorem find_names (t : Tree) (hroot : root ≠ "") (hn : ∀ n ∈ names, IsName n) :
    t.find follow ⟨root, names⟩ =
      (t.walk follow maxLinks [] names).mapError fun cause => .onPath cause (⟨root, names⟩ : Path).text := by
  rw [find, hasNull_names hn, if_neg Bool.false_ne_true, startOf_root t hroot]

/-- The entry of an absolute path of names is where the walk along it ends. -/
theorem entry?_names (t : Tree) (hroot : root ≠ "") (hn : ∀ n ∈ names, IsName n) :
    t.entry? ⟨root, names⟩ =
      match t.walk true maxLinks [] names with
      | .ok (.found _ entry) => .ok (some entry)
      | .ok (.missing _ _) => .ok none
      | .error cause => if cause.isAbsence then .ok none else .error (.onPath cause (⟨root, names⟩ : Path).text) := by
  rw [ entry?, hasNull_names hn, startOf_root t hroot]
  exact if_neg Bool.false_ne_true

/-! ## Making directories -/

theorem unlessDir_onPath (t : Tree) (p : Path) (cause : Cause) (text : String) :
    t.unlessDir p (.onPath cause text) =
      match t.entry? p with
      | .ok (some .dir) => ⟨t, none⟩
      | .ok _ => ⟨t, some (.onPath cause text)⟩
      | .error e => ⟨t, some e⟩ := rfl

theorem makeDirs_of_ok {p : Path} (h : t.makeDir p = .ok u) : t.makeDirs p = ⟨u, none⟩ := by
  obtain ⟨root, names⟩ := p
  unfold makeDirs
  cases hr : names.reverse with
  | nil =>
    obtain rfl : names = [] := by simpa using hr
    rw [makeDirsAt, h]
  | cons part parts => 
    rw [makeDirsAt, ← hr, List.reverse_reverse, h]

theorem makeDirs_of_error {p : Path} {e : Trouble} (h : t.makeDir p = .error e) (he : e.isNoEntry = false) :
    t.makeDirs p = t.unlessDir p e := by
  obtain ⟨root, names⟩ := p
  unfold makeDirs
  cases hr : names.reverse with
  | nil =>
    obtain rfl : names = [] := by simpa using hr
    rw [makeDirsAt, h]
  | cons part parts =>
    rw [makeDirsAt, ← hr, List.reverse_reverse, h]
    simp only [he, Bool.false_eq_true, if_false]

/-- Where a directory on the way is missing it is made first. -/
theorem makeDirs_of_noEntry {e : Trouble} (h : t.makeDir ⟨root, names ++ [name]⟩ = .error e) (he : e.isNoEntry = true) :
    t.makeDirs ⟨root, names ++ [name]⟩ =
      match (t.makeDirs ⟨root, names⟩).trouble with
      | some _ => t.makeDirs ⟨root, names⟩
      | none =>
        match (t.makeDirs ⟨root, names⟩).tree.makeDir ⟨root, names ++ [name]⟩ with
        | .ok u => ⟨u, none⟩
        | .error e => (t.makeDirs ⟨root, names⟩).tree.unlessDir ⟨root, names ++ [name]⟩ e := by
  have hparts : (name :: names.reverse).reverse = names ++ [name] := by simp
  unfold makeDirs
  rw [List.reverse_concat, makeDirsAt, hparts, h]
  exact if_pos he

section makeDirs

variable (hw : t.WellFormed) (hroot : root ≠ "")
include hw hroot

/-- A directory that is there is not made again. -/
theorem makeDirs_there (h : t.get? names = some .dir) : t.makeDirs ⟨root, names⟩ = ⟨t, none⟩ := by
  have hn : ∀ n ∈ names, IsName n := fun n hn => (hw.fits_of_get? h n hn).1
  have hmake : t.makeDir ⟨root, names⟩ = .error (.onPath .taken (⟨root, names⟩ : Path).text) := by
    rw [makeDir, find_names t hroot hn, hw.walk_there h]
    rfl
  rw [makeDirs_of_error hmake rfl, unlessDir_onPath, entry?_names t hroot hn, hw.walk_there h]

/-- None is made past a file. -/
theorem makeDirs_blocked (hn : ∀ n ∈ place ++ rest, IsName n) (h : t.get? place = some (.file bytes)) :
    t.makeDirs ⟨root, place ++ rest⟩ =
      ⟨t, some (.onPath (if rest.isEmpty then .taken else .notDirectory) (⟨root, place ++ rest⟩ : Path).text)⟩ := by
  have hmake : t.makeDir ⟨root, place ++ rest⟩ =
      .error (.onPath (if rest.isEmpty then .taken else .notDirectory) (⟨root, place ++ rest⟩ : Path).text) := by
    rw [makeDir, find_names t hroot hn, hw.walk_blocked h]
    cases rest <;> rfl
  rw [makeDirs_of_error hmake (by cases rest <;> rfl), unlessDir_onPath, entry?_names t hroot hn, hw.walk_blocked h]
  cases rest <;> rfl

theorem makeDir_long (hn : ∀ n ∈ place ++ name :: rest, IsName n) (hdir : t.get? place = some .dir)
    (h : fits name = false) :
    t.makeDir ⟨root, place ++ name :: rest⟩ =
      .error (.onPath .nameTooLong (⟨root, place ++ name :: rest⟩ : Path).text) := by
  rw [makeDir, find_names t hroot hn, hw.walk_long hdir (hn name (by simp)) h]
  rfl

theorem unlessDir_long (hn : ∀ n ∈ place ++ name :: rest, IsName n) (hdir : t.get? place = some .dir)
    (h : fits name = false) :
    t.unlessDir ⟨root, place ++ name :: rest⟩ (.onPath .nameTooLong (⟨root, place ++ name :: rest⟩ : Path).text) =
      ⟨t, some (.onPath .nameTooLong (⟨root, place ++ name :: rest⟩ : Path).text)⟩ := by
  rw [unlessDir_onPath, entry?_names t hroot hn, hw.walk_long hdir (hn name (by simp)) h]
  rfl

/-- None is made if the first that is missing has too long a name. -/
theorem makeDirs_long (hn : ∀ n ∈ place ++ name :: rest, IsName n) (hdir : t.get? place = some .dir)
    (h : fits name = false) :
    t.makeDirs ⟨root, place ++ name :: rest⟩ =
      ⟨t, some (.onPath .nameTooLong (⟨root, place ++ name :: rest⟩ : Path).text)⟩ := by
  rw [makeDirs_of_error (makeDir_long hw hroot hn hdir h) rfl, unlessDir_long hw hroot hn hdir h]

theorem makeDir_absent (hn : ∀ n ∈ place ++ [name], IsName n) (hdir : t.get? place = some .dir) (hfits : fits name = true)
    (h : t.get? (place ++ [name]) = none) :
    t.makeDir ⟨root, place ++ [name]⟩ = .ok (t.put (place ++ [name]) .dir) := by
  rw [makeDir, find_names t hroot hn, hw.walk_absent hdir (hn name (by simp)) hfits h]
  rfl

end makeDirs

/-! ## Directories along a way -/

/-- The names before the first that is too long. -/
def lead (names : Location) : Location := names.takeWhile fits

theorem lead_eq_self (h : ∀ n ∈ names, fits n = true) : lead names = names := List.takeWhile_eq_self_iff.mpr h

theorem lead_of_long (hplace : ∀ n ∈ place, fits n = true) (h : fits name = false) :
    lead (place ++ name :: rest) = place := by
  rw [lead, List.takeWhile_append_of_pos hplace, List.takeWhile_cons_of_neg (by simp [h]), List.append_nil]

theorem fits_of_mem_lead {n : String} (h : n ∈ lead names) : fits n = true := List.mem_takeWhile_imp h

theorem lead_isPrefix (names : Location) : lead names <+: names := List.takeWhile_prefix _

/-- A way of names that an entry can have comes before. -/
theorem isPrefix_lead (h : place <+: names) (hfits : ∀ n ∈ place, fits n = true) : place <+: lead names := by
  obtain ⟨rest, rfl⟩ := h
  rw [lead, List.takeWhile_append_of_pos hfits]
  exact List.prefix_append place _

/-- Behind a name that is too long nothing leads further. -/
theorem lead_append (h : ¬ ∀ n ∈ names, fits n = true) (rest : Location) : lead (names ++ rest) = lead names := by
  have hlength : (names.takeWhile fits).length ≠ names.length := by
    intro hlength
    exact h (List.takeWhile_eq_self_iff.mp ((List.takeWhile_prefix fits).eq_of_length hlength))
  rw [lead, List.takeWhile_append, if_neg hlength, lead]

theorem not_append_isPrefix (names : Location) (name : String) : ¬ names ++ [name] <+: names := by
  intro hway
  have hlength := hway.length_le
  rw [List.length_append, List.length_singleton] at hlength
  omega

/-- The path of a directory on the way, with a name that is too long. -/
def TooLong (root : String) (names : Location) (text : String) : Prop :=
  ∃ way, way <+: names ∧ (∃ n ∈ way, fits n = false) ∧ text = (⟨root, way⟩ : Path).text

theorem TooLong.append {text : String} (h : TooLong root names text) (rest : Location) : TooLong root (names ++ rest) text := by
  obtain ⟨way, hway, hlong, htext⟩ := h
  exact ⟨way, hway.trans (List.prefix_append names rest), hlong, htext⟩

theorem TooLong.of_mem (h : name ∈ names) (hlong : fits name = false) : TooLong root names (⟨root, names⟩ : Path).text :=
  ⟨names, List.prefix_rfl, ⟨name, h, hlong⟩, rfl⟩

/-- A file stands on the way. -/
def Blocked (t : Tree) (names : Location) : Prop := ∃ place bytes, place <+: names ∧ t.get? place = some (.file bytes)

/-- `u` is `t` with directories at all that names lead to. -/
structure DirsAlong (t u : Tree) (names : Location) : Prop extends AddsDirs t u where
  on : ∀ q, q <+: names → u.get? q = some .dir
  off : ∀ q, ¬ q <+: names → u.get? q = t.get? q

theorem DirsAlong.of_dir (hw : t.WellFormed) (h : t.get? names = some .dir) : DirsAlong t t names := by
  refine ⟨.refl t, fun q hq => ?_, fun _ _ => rfl⟩
  by_cases hne : q = names
  · rw [hne, h]
  · exact hw.dir_of_prefix h hq hne

theorem DirsAlong.append (h : DirsAlong t u names) (hfree : t.get? (names ++ [name]) = none) :
    DirsAlong t (u.put (names ++ [name]) .dir) (names ++ [name]) := by
  have hput : (u.put (names ++ [name]) .dir).get? (names ++ [name]) = some .dir := get?_put_self u (by simp) _
  have hother : ∀ q, q ≠ names ++ [name] → (u.put (names ++ [name]) .dir).get? q = u.get? q :=
    fun q hne => get?_put_ne u hne _
  refine ⟨⟨h.here, fun q => ?_⟩, fun q hq => ?_, fun q hq => ?_⟩
  · by_cases hne : q = names ++ [name]
    · exact .inr ⟨hne ▸ hfree, hne ▸ hput⟩
    · rw [hother q hne]
      exact h.get? q
  · rcases List.prefix_concat_iff.mp hq with rfl | hq
    · exact hput
    · have hne : q ≠ names ++ [name] := by
        rintro rfl
        exact not_append_isPrefix names name hq
      rw [hother q hne, h.on q hq]
  · have hne : q ≠ names ++ [name] := by
      rintro rfl
      exact hq List.prefix_rfl
    rw [hother q hne, h.off q fun hway => hq (hway.trans (List.prefix_append names [name]))]

/-- Directories are made along names up to the first that is too long, and that is all the trouble there can be. -/
structure MadeAlong (t : Tree) (root : String) (names : Location) (change : Change) : Prop where
  dirs : DirsAlong t change.tree (lead names)
  ok : (∀ n ∈ names, fits n = true) → change.trouble = none
  long : (¬ ∀ n ∈ names, fits n = true) →
    ∃ text, TooLong root names text ∧ change.trouble = some (.onPath .nameTooLong text)

/-- Nothing lies behind a name that is missing. -/
theorem WellFormed.get?_of_absent (hw : t.WellFormed) (h : t.get? names = none) (rest : Location) :
    t.get? (names ++ rest) = none := by
  cases he : t.get? (names ++ rest) with
  | none => rfl
  | some e =>
    by_cases hne : names = names ++ rest
    · rw [← hne, h] at he
      cases he
    · rw [hw.dir_of_prefix he (List.prefix_append names rest) hne] at h
      cases h

/-- Directories along a way leave the tree well-formed. -/
theorem WellFormed.dirsAlong (hw : t.WellFormed) (h : DirsAlong t u names) (hn : ∀ n ∈ names, IsName n ∧ fits n = true) :
    u.WellFormed where
  closed place name e he := by
    by_cases hon : place ++ [name] <+: names
    · exact h.on place ((List.prefix_append place [name]).trans hon)
    · rw [h.off _ hon] at he
      have hdir := hw.closed place name e he
      by_cases hplace : place <+: names
      · exact h.on place hplace
      · rw [h.off place hplace, hdir]
  names place name e he := by
    by_cases hon : place ++ [name] <+: names
    · obtain ⟨hname, hfits⟩ := hn name (hon.subset (by simp))
      exact ⟨hname, by simpa [fits] using hfits⟩
    · rw [h.off _ hon] at he
      exact hw.names place name e he
  here := by
    rw [h.here]
    exact hw.here

/-- Directories that are added are no links. -/
theorem AddsDirs.not_link (h : AddsDirs t u) {target : String} (hq : t.get? q ≠ some (.link target)) :
    u.get? q ≠ some (.link target) := by
  rcases h.get? q with hsame | ⟨-, hdir⟩
  · rwa [hsame]
  · rw [hdir]
    nofun

theorem Plain.of_addsDirs (hp : t.Plain) (h : AddsDirs t u) (hw : u.WellFormed) : u.Plain :=
  ⟨hw, fun q target => h.not_link (hp.noLinks q target)⟩

theorem Plain.dirsAlong (hp : t.Plain) (h : DirsAlong t u names) (hn : ∀ n ∈ names, IsName n ∧ fits n = true) :
    u.Plain :=
  hp.of_addsDirs h.toAddsDirs (hp.toWellFormed.dirsAlong h hn)

section makeDirs

variable (hw : t.WellFormed) (hroot : root ≠ "")
include hw hroot

omit hw hroot in
/-- A way on which all is there. -/
theorem MadeAlong.of_fits (h : DirsAlong t u names) (hall : ∀ n ∈ names, fits n = true) :
    MadeAlong t root names ⟨u, none⟩ where
  dirs := by rwa [lead_eq_self hall]
  ok _ := rfl
  long hlong := absurd hall hlong

/-- A directory whose parent is missing is made after it. -/
theorem MadeAlong.append (h : MadeAlong t root names (t.makeDirs ⟨root, names⟩)) {last : String} {e : Trouble}
    (hn : ∀ n ∈ names ++ [last], IsName n) (hfree : t.get? (names ++ [last]) = none)
    (hmake : t.makeDir ⟨root, names ++ [last]⟩ = .error e) (he : e.isNoEntry = true) :
    MadeAlong t root (names ++ [last]) (t.makeDirs ⟨root, names ++ [last]⟩) := by
  obtain ⟨hdirs, hnone, hsome⟩ := h
  rw [makeDirs_of_noEntry hmake he]
  by_cases hall : ∀ n ∈ names, fits n = true
  · rw [hnone hall]
    rw [lead_eq_self hall] at hdirs
    generalize (t.makeDirs ⟨root, names⟩).tree = u at hdirs
    have hu : u.WellFormed := hw.dirsAlong hdirs fun n hm => ⟨hn n (List.mem_append_left _ hm), hall n hm⟩
    have hthere := hdirs.on _ List.prefix_rfl
    cases hlast : fits last with
    | false =>
      have hlong : ¬ ∀ n ∈ names ++ [last], fits n = true := by
        intro hfits
        rw [hfits last (by simp)] at hlast
        cases hlast
      simp only [makeDir_long hu hroot hn hthere hlast, unlessDir_long hu hroot hn hthere hlast]
      exact ⟨by rwa [lead_of_long hall hlast], fun hfits => absurd hfits hlong,
        fun _ => ⟨_, .of_mem (by simp) hlast, rfl⟩⟩
    | true =>
      have hfree' : u.get? (names ++ [last]) = none := by rw [hdirs.off _ (not_append_isPrefix _ last), hfree]
      have hall' : ∀ n ∈ names ++ [last], fits n = true := by
        intro n hm
        rcases List.mem_append.mp hm with hm | hm
        · exact hall n hm
        · rw [List.mem_singleton.mp hm, hlast]
      simp only [makeDir_absent hu hroot hn hthere hlast hfree']
      exact .of_fits (hdirs.append hfree) hall'
  · -- The trouble with a name before the last is that of the whole way.
    obtain ⟨text, htold, htext⟩ := hsome hall
    have hlong : ¬ ∀ n ∈ names ++ [last], fits n = true :=
      fun hfits => hall fun n hm => hfits n (List.mem_append_left _ hm)
    rw [htext]
    exact ⟨by rwa [lead_append hall], fun hfits => absurd hfits hlong, fun _ => ⟨text, htold.append [last], htext⟩⟩

/-- From the first name that is missing on, directories are made up to a name that is too long. -/
theorem madeAlong_absent (hn : ∀ n ∈ place ++ name :: rest, IsName n) (hdir : t.get? place = some .dir)
    (hfits : fits name = true) (h : t.get? (place ++ [name]) = none) :
    MadeAlong t root (place ++ name :: rest) (t.makeDirs ⟨root, place ++ name :: rest⟩) := by
  have hplace : ∀ n ∈ place, fits n = true := fun n hn => (hw.fits_of_get? hdir n hn).2
  -- A parent comes before its directory, so the induction is from the end of the way.
  induction rest using List.reverseRecOn with
  | nil =>
    have hall : ∀ n ∈ place ++ [name], fits n = true := by
      simpa [or_imp, forall_and] using ⟨hplace, hfits⟩
    rw [makeDirs_of_ok (makeDir_absent hw hroot hn hdir hfits h)]
    exact .of_fits ((DirsAlong.of_dir hw hdir).append h) hall
  | append_singleton rest last ih =>
    have hmake : t.makeDir ⟨root, place ++ name :: (rest ++ [last])⟩ =
        .error (.onPath .noEntry (⟨root, place ++ name :: (rest ++ [last])⟩ : Path).text) := by
      rw [makeDir, find_names t hroot hn, hw.walk_absent hdir (hn name (by simp)) hfits h]
      cases rest <;> rfl
    have hfree : t.get? (place ++ name :: rest ++ [last]) = none := by
      simpa using hw.get?_of_absent h (rest ++ [last])
    have hsplit : place ++ name :: (rest ++ [last]) = place ++ name :: rest ++ [last] := by simp
    rw [hsplit] at hn hmake ⊢
    exact (ih fun n hm => hn n (List.mem_append_left _ hm)).append hw hroot hn hfree hmake rfl

/-- Where no file stands on the way, all directories are made that come before a name that is too long. -/
theorem madeAlong_makeDirs (hway : Way t names) (hn : ∀ n ∈ names, IsName n) (hb : ¬ t.Blocked names) :
    MadeAlong t root names (t.makeDirs ⟨root, names⟩) := by
  cases hway with
  | there h =>
    rw [makeDirs_there hw hroot h]
    exact .of_fits (.of_dir hw h) fun n hn => (hw.fits_of_get? h n hn).2
  | blocked rest h => exact absurd ⟨_, _, List.prefix_append _ rest, h⟩ hb
  | absent rest hdir hfits h => exact madeAlong_absent hw hroot hn hdir hfits h
  | @long place name rest hdir h =>
    have hlong : ¬ ∀ n ∈ place ++ name :: rest, fits n = true := by
      intro hfits
      rw [hfits name (by simp)] at h
      cases h
    rw [makeDirs_long hw hroot hn hdir h]
    refine ⟨?_, fun hfits => absurd hfits hlong, fun _ => ⟨_, .of_mem (by simp) h, rfl⟩⟩
    rw [lead_of_long (fun n hn => (hw.fits_of_get? hdir n hn).2) h]
    exact .of_dir hw hdir

/-- Where making directories meets no trouble all are there. -/
theorem dirsAlong_of_trouble (hway : Way t names) (hn : ∀ n ∈ names, IsName n) (hm : (t.makeDirs ⟨root, names⟩).trouble = none) :
    DirsAlong t (t.makeDirs ⟨root, names⟩).tree names := by
  have hb : ¬ t.Blocked names := by
    rintro ⟨place, bytes, ⟨rest, rfl⟩, hfile⟩
    rw [makeDirs_blocked hw hroot hn hfile] at hm
    cases hm
  obtain ⟨hdirs, -, hlong⟩ := madeAlong_makeDirs hw hroot hway hn hb
  have hfits : ∀ n ∈ names, fits n = true := by
    by_contra hnot
    obtain ⟨text, -, htext⟩ := hlong hnot
    rw [hm] at htext
    cases htext
  rwa [lead_eq_self hfits] at hdirs

/-- Whatever trouble it meets, the tree stays well-formed. -/
theorem WellFormed.makeDirs (hway : Way t names) (hn : ∀ n ∈ names, IsName n) :
    (t.makeDirs ⟨root, names⟩).tree.WellFormed := by
  by_cases hb : t.Blocked names
  · obtain ⟨place, bytes, ⟨rest, rfl⟩, hfile⟩ := hb
    rw [makeDirs_blocked hw hroot hn hfile]
    exact hw
  · exact hw.dirsAlong (madeAlong_makeDirs hw hroot hway hn hb).1 fun n hm =>
      ⟨hn n ((lead_isPrefix names).subset hm), fits_of_mem_lead hm⟩

end makeDirs

theorem Plain.makeDirs (hp : t.Plain) (hroot : root ≠ "") (hn : ∀ n ∈ names, IsName n) :
    (t.makeDirs ⟨root, names⟩).tree.Plain :=
  hp.of_addsDirs (addsDirs_makeDirs t _) (hp.toWellFormed.makeDirs hroot (hp.way names) hn)

end CrudQueries.Files.Tree
