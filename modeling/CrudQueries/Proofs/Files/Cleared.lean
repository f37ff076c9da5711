/-
  CrudQueries.Proofs.Files.Cleared — what is left of a directory that has been cleared.

  In a well-formed tree that lists nothing twice (`Distinct`) the names in a directory are removed one after the other.
  Nothing but a link stops this, if it leads to a directory or past a name that is too long (`stops_of_clear`); it is
  then not taken away, nor are the names after it. Without such links nothing is left at or below a name that is not
  kept (`clear_dir`). Whatever trouble clearing meets, only such names are touched (`clear_untouched`), and the tree
  stays well-formed (`WellFormed.clear`).
-/

import CrudQueries.Proofs.Files.Ways
import Mathlib.Data.List.Nodup

namespace CrudQueries.Files.Tree

-- Lists are compared as the core library does, whatever else is imported.
attribute [local instance (high)] List.instLE

variable {t u : Tree} {names place q o : Location} {name root : String} {e : Entry} {keepGit : Bool}

/-! ## The names in a directory -/

/-- Nothing is listed twice. -/
def Distinct (t : Tree) : Prop := (t.entries.map (·.1)).Nodup

instance (t : Tree) : Decidable t.Distinct := inferInstanceAs (Decidable (List.Nodup _))

/-- The one name that a location is. -/
def onlyName? : Location → Option String
  | [name] => some name
  | _ => none

theorem eq_of_onlyName? {p : Location} (h : onlyName? p = some name) : p = [name] := by
  match p with
  | [_] => rw [Option.some.inj h]

theorem names_eq (t : Tree) (o : Location) : t.names o = ((t.below o).map (·.1)).filterMap onlyName? := by
  rw [names, List.filterMap_map]
  refine List.filterMap_congr fun k _ => ?_
  obtain ⟨p, e⟩ := k
  rcases p with _ | ⟨n, _ | ⟨m, p⟩⟩ <;> rfl

/-- The names below a location depend on the names alone that the tree lists. -/
theorem below_names (t : Tree) (o : Location) :
    (t.below o).map (·.1) =
      (((t.entries.map (·.1)).filter (isBelow o)).map (·.drop o.length)).mergeSort fun p q => decide (p ≤ q) := by
  refine (List.map_mergeSort (s := fun p q => decide (p ≤ q)) fun _ _ _ _ => rfl).trans ?_
  rw [List.filter_map, List.map_map, List.map_map]
  rfl

/-- Below a location lies what is listed with more names. -/
theorem below_perm (t : Tree) (o : Location) :
    ((t.below o).map (·.1)).Perm (((t.entries.map (·.1)).filter (isBelow o)).map (·.drop o.length)) := by
  rw [below_names]
  exact List.mergeSort_perm _ _

theorem isBelow_iff : isBelow o q = true ↔ ∃ n rest, q = o ++ n :: rest := by
  rw [isBelow, Bool.and_eq_true, List.isPrefixOf_iff_prefix, decide_eq_true_eq]
  constructor
  · rintro ⟨⟨rest, rfl⟩, hlt⟩
    cases rest with
    | nil => simp at hlt
    | cons n rest => exact ⟨n, rest, rfl⟩
  · rintro ⟨n, rest, rfl⟩
    exact ⟨List.prefix_append o _, by simp⟩

theorem mem_below_iff : names ∈ (t.below o).map (·.1) ↔ names ≠ [] ∧ t.get? (o ++ names) ≠ none := by
  have hlisted : names ∈ (t.below o).map (·.1) ↔ names ≠ [] ∧ o ++ names ∈ t.entries.map (·.1) := by
    rw [(below_perm t o).mem_iff, List.mem_map]
    constructor
    · rintro ⟨q, hq, rfl⟩
      obtain ⟨hq, hbelow⟩ := List.mem_filter.mp hq
      obtain ⟨n, rest, rfl⟩ := isBelow_iff.mp hbelow
      rw [List.drop_left]
      exact ⟨by simp, hq⟩
    · rintro ⟨hne, hq⟩
      obtain ⟨n, rest, rfl⟩ := List.exists_cons_of_ne_nil hne
      exact ⟨_, List.mem_filter.mpr ⟨hq, isBelow_iff.mpr ⟨n, rest, rfl⟩⟩, List.drop_left⟩
  rw [hlisted, and_congr_right_iff]
  intro hne
  constructor
  · intro hm
    obtain ⟨k, hk, hplace⟩ := List.mem_map.mp hm
    obtain ⟨e, he⟩ := exists_get? hk
    rw [← hplace, he]
    nofun
  · intro hsome
    obtain ⟨e, he⟩ := Option.ne_none_iff_exists'.mp hsome
    exact List.mem_map_of_mem (mem_of_get? he (by simp [hne]))

theorem mem_names_iff : name ∈ t.names o ↔ t.get? (o ++ [name]) ≠ none := by
  have honly : name ∈ t.names o ↔ [name] ∈ (t.below o).map (·.1) := by
    rw [names_eq, List.mem_filterMap]
    constructor
    · rintro ⟨p, hp, hname⟩
      rwa [← eq_of_onlyName? hname]
    · exact fun hp => ⟨[name], hp, rfl⟩
  rw [honly, mem_below_iff]
  simp

theorem Distinct.nodup_below (h : t.Distinct) (o : Location) : ((t.below o).map (·.1)).Nodup := by
  rw [(below_perm t o).nodup_iff]
  refine List.Nodup.map_on (fun p hp q hq heq => ?_) (List.Nodup.filter _ h)
  obtain ⟨n, rest, rfl⟩ := isBelow_iff.mp (List.mem_filter.mp hp).2
  obtain ⟨m, rest', rfl⟩ := isBelow_iff.mp (List.mem_filter.mp hq).2
  rw [List.drop_left, List.drop_left] at heq
  rw [heq]

theorem Distinct.nodup_names (h : t.Distinct) (o : Location) : (t.names o).Nodup := by
  rw [names_eq]
  refine (h.nodup_below o).filterMap fun p q n hp hq => ?_
  rw [ eq_of_onlyName? hp, eq_of_onlyName? hq]

theorem pairwise_below (t : Tree) (o : Location) : (t.below o).Pairwise fun k l => k.1 ≤ l.1 := by
  refine (List.pairwise_mergeSort (fun a b c hab hbc => ?_) (fun a b => ?_) _).imp fun h => by simpa using h
  · rw [decide_eq_true_eq] at *
    exact List.le_trans hab hbc
  · rw [Bool.or_eq_true, decide_eq_true_eq, decide_eq_true_eq]
    exact List.le_total a.1 b.1

/-- The names in a directory are in order. -/
theorem Distinct.pairwise_names (h : t.Distinct) (o : Location) : (t.names o).Pairwise (· < ·) := by
  have hle : (t.names o).Pairwise (· ≤ ·) := by
    rw [names_eq, List.filterMap_map]
    refine (pairwise_below t o).filterMap _ fun k l hkl n hn m hm => ?_
    have hk : k.1 = [n] := eq_of_onlyName? hn
    have hl : l.1 = [m] := eq_of_onlyName? hm
    rw [hk, hl, List.cons_le_cons_iff] at hkl
    rcases hkl with hlt | ⟨rfl, -⟩
    · exact String.not_lt.mp fun hgt => String.lt_irrefl _ (String.lt_trans hlt hgt)
    · exact String.le_refl n
  exact (hle.and (h.nodup_names o)).imp fun ⟨hle, hne⟩ => String.not_le.mp fun hge => hne (String.le_antisymm hle hge)

/-! ## Removing -/

/-- What is left stays well-formed if nothing lies in a directory that is gone. -/
theorem WellFormed.of_shrinks (hw : t.WellFormed) (h : Shrinks t u)
    (hclosed : ∀ place name, u.get? (place ++ [name]) ≠ none → u.get? place ≠ none) : u.WellFormed where
  closed place name e he := by
    have hdir := hw.closed place name e (h.of_some he)
    rcases h.get? place with hsame | hnone
    · rw [hsame, hdir]
    · exact absurd hnone (hclosed place name (by simp [he]))
  names place name e he := hw.names place name e (h.of_some he)
  here := by
    rw [h.here]
    exact hw.here

theorem WellFormed.remove (hw : t.WellFormed) (place : Location) : (t.remove place).WellFormed := by
  refine hw.of_shrinks (shrinks_remove t place) fun q n hq => ?_
  rw [get?_remove t place (by simp)] at hq
  split at hq
  · exact absurd rfl hq
  · rename_i hleft
    obtain ⟨e, he⟩ := Option.ne_none_iff_exists'.mp hq
    by_cases hroot : q = []
    · simp [hroot]
    · rw [get?_remove t place hroot, if_neg, hw.closed q n e he]
      · nofun
      · rw [List.isPrefixOf_iff_prefix] at hleft ⊢
        exact fun hway => hleft (hway.trans (List.prefix_append q [n]))

theorem WellFormed.empty (hw : t.WellFormed) (place : Location) : (t.empty place).WellFormed := by
  refine hw.of_shrinks (shrinks_empty t place) fun q n hq => ?_
  rw [get?_empty t place (by simp)] at hq
  split at hq
  · exact absurd rfl hq
  · rename_i hleft
    obtain ⟨e, he⟩ := Option.ne_none_iff_exists'.mp hq
    by_cases hroot : q = []
    · simp [hroot]
    · rw [get?_empty t place hroot, if_neg, hw.closed q n e he]
      · nofun
      · intro hbelow
        obtain ⟨m, rest, rfl⟩ := isBelow_iff.mp hbelow
        exact hleft (isBelow_iff.mpr ⟨m, rest ++ [n], by simp⟩)

theorem WellFormed.removeAt (hw : t.WellFormed) (p : Path) : (t.removeAt p).tree.WellFormed := by
  unfold Tree.removeAt
  split
  · unfold removeDir
    split
    · rename_i place _
      simp only
      split
      · exact (hw.empty place).remove _
      · exact hw.empty place
      · exact hw.empty place
    · exact hw
    · exact hw
    · exact hw
  · unfold removeFile
    cases t.find false p with
    | error e => exact hw
    | ok found =>
      cases found with
      | missing parent name => exact hw
      | found place entry =>
        cases entry with
        | dir => exact hw
        | file bytes => exact hw.remove place
        | link target => exact hw.remove place
  · exact hw

theorem WellFormed.removeAll (hw : t.WellFormed) (paths : List Path) : (t.removeAll paths).tree.WellFormed := by
  induction paths generalizing t with
  | nil => exact hw
  | cons p rest ih =>
    rw [Tree.removeAll]
    split
    · exact ih (hw.removeAt p)
    · exact hw.removeAt p

/-- Clearing leaves a tree well-formed. -/
theorem WellFormed.clear (hw : t.WellFormed) (p : Path) (keepGit : Bool) : (t.clear p keepGit).tree.WellFormed := by
  unfold Tree.clear
  split
  · exact hw
  · exact hw
  · split
    · exact hw.removeAll _
    · exact hw
    · exact hw

/-- An entry that is there is found, a link as long as it is not followed. -/
theorem WellFormed.find_there (hw : t.WellFormed) (hroot : root ≠ "") (h : t.get? names = some e) {follow : Bool}
    (hlink : follow = true → ∀ target, e ≠ .link target) : t.find follow ⟨root, names⟩ = .ok (.found names e) := by
  have hn : ∀ n ∈ names, IsName n := fun n hm => (hw.fits_of_get? h n hm).1
  rw [find_names t hroot hn]
  cases e with
  | dir =>
    rw [hw.walk_there h]
    rfl
  | file bytes =>
    have hwalk : t.walk follow maxLinks [] (names ++ []) = .ok (.found names (.file bytes)) := hw.walk_blocked h []
    rw [List.append_nil] at hwalk
    rw [hwalk]
    rfl
  | link target =>
    obtain rfl : follow = false := by simpa using fun hf => hlink hf target rfl
    obtain ⟨place, name, rfl⟩ : ∃ place name, names = place ++ [name] := by
      rcases List.eq_nil_or_concat names with rfl | ⟨place, name, rfl⟩
      · cases h
      · exact ⟨place, name, List.concat_eq_append⟩
    obtain ⟨hname, hfits⟩ := hw.fits_of_get? h name (by simp)
    rw [hw.walk_dir (hw.closed place name _ h), walk_name (lookedUp_of_fits hname hfits), h]
    rfl

theorem WellFormed.find_dir (hw : t.WellFormed) (hroot : root ≠ "") (h : t.get? names = some .dir) {follow : Bool} :
    t.find follow ⟨root, names⟩ = .ok (.found names .dir) :=
  hw.find_there hroot h (by simp)

theorem WellFormed.entry?_there (hw : t.WellFormed) (hroot : root ≠ "") (h : t.get? names = some e)
    (hlink : ∀ target, e ≠ .link target) : t.entry? ⟨root, names⟩ = .ok (some e) := by
  obtain ⟨hnull, hwalk⟩ := find_eq_ok.mp (hw.find_there hroot h fun _ => hlink)
  unfold entry?
  rw [hnull, hwalk]
  rfl

/-- Removing stops at a link from which it is led to a directory, or past a name that is too long. -/
def Stops (t : Tree) (p : Path) : Prop :=
  (∃ target, t.get? p.parts = some (.link target)) ∧ (t.entry? p = .ok (some .dir) ∨ ∃ e, t.entry? p = .error e)

/-- If it stops when other entries are gone it stops before too. -/
theorem Stops.of_shrinks {p : Path} (hs : u.Stops p) (h : Shrinks t u) : t.Stops p := by
  obtain ⟨⟨target, hlink⟩, hleads⟩ := hs
  refine ⟨⟨target, h.of_some hlink⟩, ?_⟩
  unfold entry? at hleads ⊢
  rw [startOf_of_here h.here] at hleads
  cases hnull : hasNull p with
  | true => simp [hnull] at hleads
  | false =>
    simp only [hnull, Bool.false_eq_true, if_false] at hleads ⊢
    generalize hwalk : u.walk true maxLinks (t.startOf p) p.parts = w at hleads
    match w with
    | .ok (.found place e) =>
      rw [walk_of_shrinks h hwalk]
      exact hleads
    | .ok (.missing parent name) => simp at hleads
    | .error cause =>
      rw [walk_eq_of_shrinks h hwalk (fun heq => ?_) nofun]
      · exact hleads
      · obtain rfl := Except.error.inj heq
        simp [Cause.isAbsence] at hleads

/-- An entry that is there is removed without trouble, unless removing stops at it and leaves all as it was. -/
theorem stops_of_removeAt (hw : t.WellFormed) (hroot : root ≠ "") (h : t.get? names = some e) (hne : names ≠ [])
    (htrouble : (t.removeAt ⟨root, names⟩).trouble ≠ none) :
    t.Stops ⟨root, names⟩ ∧ (t.removeAt ⟨root, names⟩).tree = t := by
  have hfind : t.find false ⟨root, names⟩ = .ok (.found names e) := hw.find_there hroot h (by simp)
  cases e with
  | dir =>
    have hleft : (t.empty names).get? names = some .dir := by
      rw [get?_empty t names hne, if_neg (by simp [isBelow]), h]
    have hempty : (t.empty names).find false ⟨root, names⟩ = .ok (.found names .dir) :=
      (hw.empty names).find_dir hroot hleft
    rw [removeAt, hw.entry?_there hroot h (by simp)] at htrouble
    simp only [removeDir, hfind, hempty, ne_eq, not_true_eq_false] at htrouble
  | file bytes =>
    rw [removeAt, hw.entry?_there hroot h (by simp)] at htrouble
    simp [removeFile, hfind, bind, Except.bind, attempt] at htrouble
  | link target =>
    unfold removeAt at htrouble ⊢
    split at htrouble
    · rename_i hentry
      exact ⟨⟨⟨target, h⟩, .inl hentry⟩, by simp only [removeDir, hfind]⟩
    · simp [removeFile, hfind, bind, Except.bind, attempt] at htrouble
    · rename_i e hentry
      exact ⟨⟨⟨target, h⟩, .inr ⟨e, hentry⟩⟩, rfl⟩

theorem join_name (root : String) (o : Location) (n : String) :
    (⟨root, o⟩ : Path).join ⟨"", [n]⟩ = ⟨root, o ++ [n]⟩ := by
  simp [Path.join, Path.isAbsolute]

/-- The paths of names in a directory. -/
def pathsIn (root : String) (o : Location) (names : List String) : List Path :=
  names.map fun n => (⟨root, o⟩ : Path).join ⟨"", [n]⟩

/-- Different names in a directory are removed one after the other, up to one that removing stops at. -/
theorem stops_of_removeAll (hroot : root ≠ "") (names : List String) (hnodup : names.Nodup) (hw : t.WellFormed)
    (hdir : t.get? o = some .dir) (hthere : ∀ n ∈ names, t.get? (o ++ [n]) ≠ none)
    (htrouble : (t.removeAll (pathsIn root o names)).trouble ≠ none) :
    ∃ before n after, names = before ++ n :: after ∧ t.Stops ⟨root, o ++ [n]⟩ ∧
      t.removeAll (pathsIn root o before) = ⟨(t.removeAll (pathsIn root o names)).tree, none⟩ := by
  induction names generalizing t with
  | nil => exact absurd rfl htrouble
  | cons n names ih =>
    obtain ⟨hn, hnodup⟩ := List.nodup_cons.mp hnodup
    obtain ⟨e, he⟩ := Option.ne_none_iff_exists'.mp (hthere n List.mem_cons_self)
    rw [pathsIn, List.map_cons, removeAll, ← pathsIn] at htrouble ⊢
    cases hone : (t.removeAt ((⟨root, o⟩ : Path).join ⟨"", [n]⟩)).trouble with
    | none =>
      have hname : IsName n := (hw.fits_of_get? he n (by simp)).1
      have hremoves := removes_removeAt (Shrinks.refl t) (hw.find_dir hroot hdir) hname.notHere hname.notUp
      have hdir' := (hremoves.untouched o (not_append_isPrefix o n)).trans hdir
      -- The names differ, so the others are still there.
      have hleft : ∀ m ∈ names, (t.removeAt ((⟨root, o⟩ : Path).join ⟨"", [n]⟩)).tree.get? (o ++ [m]) ≠ none := by
        intro m hm
        rw [hremoves.untouched]
        · exact hthere m (List.mem_cons_of_mem _ hm)
        · rw [List.prefix_append_right_inj]
          intro hway
          obtain rfl : n = m := by simpa using hway.eq_of_length rfl
          exact hn hm
      simp only [hone] at htrouble ⊢
      obtain ⟨before, m, after, rfl, hstops, hbefore⟩ := ih hnodup (hw.removeAt _) hdir' hleft htrouble
      refine ⟨n :: before, m, after, rfl, hstops.of_shrinks hremoves.shrinks, ?_⟩
      rw [pathsIn, List.map_cons, removeAll, ← pathsIn]
      simp only [hone]
      exact hbefore
    | some trouble =>
      rw [join_name] at hone ⊢
      obtain ⟨hstops, hsame⟩ := stops_of_removeAt hw hroot he (by simp) (by simp [hone])
      exact ⟨[], n, names, rfl, hstops, by simp only [hsame]; rfl⟩

/-! ## Clearing -/

theorem shrinks_clear (hw : t.WellFormed) (p : Path) (keepGit : Bool) : Shrinks t (t.clear p keepGit).tree := by
  unfold Tree.clear
  split
  · exact Shrinks.refl t
  · exact Shrinks.refl t
  · split
    · rename_i place hfind
      refine (removes_removeAll hfind _ (fun n hn => ?_) t (Shrinks.refl t)).1
      obtain ⟨e, he⟩ := Option.ne_none_iff_exists'.mp (mem_names_iff.mp (List.mem_filter.mp hn).1)
      have hname := (hw.fits_of_get? he n (by simp)).1
      exact ⟨hname.notHere, hname.notUp⟩
    · exact Shrinks.refl t
    · exact Shrinks.refl t

theorem Plain.clear (hp : t.Plain) (p : Path) (keepGit : Bool) : (t.clear p keepGit).tree.Plain where
  toWellFormed := hp.toWellFormed.clear p keepGit
  noLinks q target hg := hp.noLinks q target ((shrinks_clear hp.toWellFormed p keepGit).of_some hg)

/-- Is a name one that clearing takes away? -/
def isCleared (keepGit : Bool) (name : String) : Bool := !(keepGit && keptNames.contains name)

/-- Where no link stands on the way a path leads to no directory but that of its names. -/
theorem Way.place_of_find (hw : t.WellFormed) (hroot : root ≠ "") (hway : Way t o) (hn : ∀ n ∈ o, IsName n)
    (hfind : t.find true ⟨root, o⟩ = .ok (.found place .dir)) : place = o ∧ t.get? o = some .dir := by
  rw [find_names t hroot hn] at hfind
  cases hway with
  | there h =>
    rw [hw.walk_there h] at hfind
    exact ⟨(Place.found.inj (Except.ok.inj hfind)).1.symm, h⟩
  | blocked rest h =>
    rw [hw.walk_blocked h] at hfind
    cases rest <;> simp [Except.mapError] at hfind
  | @absent front name rest hdir hfits h =>
    rw [hw.walk_absent hdir (hn name (by simp)) hfits h] at hfind
    cases rest <;> simp [Except.mapError] at hfind
  | @long front name rest hdir h =>
    rw [hw.walk_long hdir (hn name (by simp)) h] at hfind
    simp [Except.mapError] at hfind

/-- Clearing touches only names in the directory that are not kept, and what lies below them. -/
theorem clear_untouched (hw : t.WellFormed) (hroot : root ≠ "") (hway : Way t o) (hn : ∀ n ∈ o, IsName n)
    (hq : ∀ n rest, isCleared keepGit n = true → q ≠ o ++ n :: rest) :
    (t.clear ⟨root, o⟩ keepGit).tree.get? q = t.get? q := by
  refine (clear_spec hw.hasPlainNames ⟨root, o⟩ keepGit).1 q fun place hfind n hcleared ⟨rest, heq⟩ => ?_
  obtain ⟨rfl, -⟩ := hway.place_of_find hw hroot hn hfind
  exact hq n rest (List.mem_filter.mp hcleared).2 (by simp [← heq])

/-- Where there is no directory there is nothing to clear. -/
theorem clear_of_not_dir (hw : t.WellFormed) (hroot : root ≠ "") (hway : Way t o) (hn : ∀ n ∈ o, IsName n)
    (hdir : t.get? o ≠ some .dir) : (t.clear ⟨root, o⟩ keepGit).tree = t := by
  unfold Tree.clear
  split
  · rfl
  · rfl
  · split
    · rename_i hfind
      exact absurd (hway.place_of_find hw hroot hn hfind).2 hdir
    · rfl
    · rfl

/-- Clearing meets trouble at a directory, or where none can be made. -/
theorem dir_of_clear_trouble (hw : t.WellFormed) (hroot : root ≠ "") (hway : Way t o) (hn : ∀ n ∈ o, IsName n)
    (htrouble : (t.clear ⟨root, o⟩ keepGit).trouble ≠ none)
    (hm : ((t.clear ⟨root, o⟩ keepGit).tree.makeDirs ⟨root, o⟩).trouble = none) : t.get? o = some .dir := by
  by_contra hdir
  rw [clear_of_not_dir hw hroot hway hn hdir] at hm
  cases hway with
  | there h => exact hdir h
  | blocked rest h =>
    rw [makeDirs_blocked hw hroot hn h] at hm
    cases hm
  | @absent place name rest hplace hfits h =>
    have hentry : t.entry? ⟨root, place ++ name :: rest⟩ = .ok none := by
      rw [entry?_names t hroot hn, hw.walk_absent hplace (hn name (by simp)) hfits h]
      cases rest <;> rfl
    rw [clear, hentry] at htrouble
    exact htrouble rfl
  | long rest hplace h =>
    rw [makeDirs_long hw hroot hn hplace h] at hm
    cases hm

section

variable (hw : t.WellFormed) (hroot : root ≠ "") (hdir : t.get? o = some .dir)
include hw hroot hdir

theorem clear_eq (keepGit : Bool) : t.clear ⟨root, o⟩ keepGit =
    t.removeAll (pathsIn root o (t.clearedNames o keepGit)) := by
  rw [clear, hw.entry?_there hroot hdir (by simp), hw.find_dir hroot hdir]
  rfl

omit hroot hdir in
/-- Where a name is missing nothing lies, nor does clearing put anything there. -/
theorem get?_clear_of_absent {n : String} (hnone : t.get? (o ++ [n]) = none) (rest : Location) :
    (t.clear ⟨root, o⟩ keepGit).tree.get? (o ++ n :: rest) = none := by
  have hbelow := hw.get?_of_absent hnone rest
  rw [List.append_assoc, List.singleton_append] at hbelow
  exact ((shrinks_clear hw ⟨root, o⟩ keepGit).get? _).elim (fun hsame => hsame.trans hbelow) id

/-- A directory that is there is cleared without trouble, unless removing stops at one of its names. The names before are
  then gone, and the others are as they were. -/
theorem stops_of_clear (hd : t.Distinct) (htrouble : (t.clear ⟨root, o⟩ keepGit).trouble ≠ none) :
    ∃ name, isCleared keepGit name = true ∧ t.Stops ⟨root, o ++ [name]⟩ ∧
      (∀ n rest, isCleared keepGit n = true → n < name →
        (t.clear ⟨root, o⟩ keepGit).tree.get? (o ++ n :: rest) = none) ∧
      ∀ n rest, name ≤ n → (t.clear ⟨root, o⟩ keepGit).tree.get? (o ++ n :: rest) = t.get? (o ++ n :: rest) := by
  have habsent : ∀ n rest, t.get? (o ++ [n]) = none → (t.clear ⟨root, o⟩ keepGit).tree.get? (o ++ n :: rest) = none :=
    fun n rest hnone => get?_clear_of_absent hw hnone rest
  rw [clear_eq hw hroot hdir] at htrouble habsent ⊢
  have hthere : ∀ n ∈ t.clearedNames o keepGit, t.get? (o ++ [n]) ≠ none := fun n hn =>
    mem_names_iff.mp (List.mem_filter.mp hn).1
  have hnodup : (t.clearedNames o keepGit).Nodup := (hd.nodup_names o).filter _
  have hsorted : (t.clearedNames o keepGit).Pairwise (· < ·) := (hd.pairwise_names o).filter _
  obtain ⟨before, name, after, hnames, hstops, hbefore⟩ :=
    stops_of_removeAll hroot (t.clearedNames o keepGit) hnodup hw hdir hthere htrouble
  -- The names are removed in order, so those before the one that stops are less.
  rw [hnames] at hsorted
  obtain ⟨-, hafter, hlt⟩ := List.pairwise_append.mp hsorted
  have hmem : ∀ n ∈ before, n ∈ t.clearedNames o keepGit := fun n hn => hnames ▸ List.mem_append_left _ hn
  have hplain : ∀ n ∈ before, n ≠ "." ∧ n ≠ ".." := by
    intro n hn
    obtain ⟨e, he⟩ := Option.ne_none_iff_exists'.mp (hthere n (hmem n hn))
    have hname := (hw.fits_of_get? he n (by simp)).1
    exact ⟨hname.notHere, hname.notUp⟩
  obtain ⟨-, huntouched, hgone⟩ :=
    removes_removeAll (hw.find_dir hroot hdir) before hplain t (Shrinks.refl t)
  rw [← pathsIn, hbefore] at huntouched hgone
  have hname : name ∈ t.clearedNames o keepGit := hnames ▸ List.mem_append_right _ List.mem_cons_self
  refine ⟨name, (List.mem_filter.mp hname).2, hstops, fun n rest hn hless => ?_, fun n rest hle => ?_⟩
  · by_cases hnone : t.get? (o ++ [n]) = none
    · exact habsent n rest hnone
    · have hlisted : n ∈ t.clearedNames o keepGit := List.mem_filter.mpr ⟨mem_names_iff.mpr hnone, hn⟩
      rw [hnames] at hlisted
      have hfirst : n ∈ before := by
        refine (List.mem_append.mp hlisted).resolve_right fun hlater => ?_
        rcases List.mem_cons.mp hlater with rfl | hlater
        · exact String.lt_irrefl _ hless
        · exact String.lt_irrefl _ (String.lt_trans hless ((List.pairwise_cons.mp hafter).1 n hlater))
      exact hgone rfl n hfirst _ (by simp)
  · refine huntouched _ fun m hm hway => ?_
    have hsame : m = n := by
      have h := (List.prefix_append_right_inj o).mp hway
      simpa using h
    exact hle (hsame ▸ hlt m hm name List.mem_cons_self)

/-- Without trouble nothing is left at or below the names that are not kept. -/
theorem clear_dir (htrouble : (t.clear ⟨root, o⟩ keepGit).trouble = none) (hname : isCleared keepGit name = true)
    (rest : Location) : (t.clear ⟨root, o⟩ keepGit).tree.get? (o ++ name :: rest) = none := by
  by_cases hthere : t.get? (o ++ [name]) = none
  · exact get?_clear_of_absent hw hthere rest
  · refine (clear_spec hw.hasPlainNames ⟨root, o⟩ keepGit).2 htrouble o (hw.find_dir hroot hdir) name ?_ _ (by simp)
    exact List.mem_filter.mpr ⟨mem_names_iff.mpr hthere, hname⟩

end

/-- Without links there is no trouble. -/
theorem Plain.clear_trouble (hp : t.Plain) (hd : t.Distinct) (hroot : root ≠ "") (hdir : t.get? o = some .dir) :
    (t.clear ⟨root, o⟩ keepGit).trouble = none := by
  by_contra htrouble
  obtain ⟨name, -, ⟨⟨target, hlink⟩, -⟩, -⟩ := stops_of_clear hp.toWellFormed hroot hdir hd htrouble
  exact hp.noLinks _ target hlink

end CrudQueries.Files.Tree
