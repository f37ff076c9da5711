/-
  CrudQueries.Proofs.Files.Clearing — what clearing a directory takes away.

  Clearing only takes away (`Shrinks`), and only what lies at or below a name in the directory that is
  not kept; if it meets no trouble all of that is gone (`clear_spec`). A name in a directory is none of
  the two that walks read as directions (`HasPlainNames`), so the path of an entry leads to that entry,
  however many entries have been removed before it.
-/

import CrudQueries.Proofs.Files.Frame

namespace CrudQueries.Files.Tree

variable {t t' u : Tree} {q place o : Location} {e : Entry}

/-! ## Taking away -/

/-- `t'` is `t` without some of its entries. -/
structure Shrinks (t t' : Tree) : Prop where
  here : t'.here = t.here
  get? : ∀ q, t'.get? q = t.get? q ∨ t'.get? q = none

theorem Shrinks.refl (t : Tree) : Shrinks t t := ⟨rfl, fun _ => Or.inl rfl⟩

theorem Shrinks.trans (h : Shrinks t t') (h' : Shrinks t' u) : Shrinks t u := by
  refine ⟨h'.here.trans h.here, fun q => ?_⟩
  rcases h'.get? q with hq' | hq'
  · rcases h.get? q with hq | hq
    · exact Or.inl (hq'.trans hq)
    · exact Or.inr (hq'.trans hq)
  · exact Or.inr hq'

/-- What is still there was there before. -/
theorem Shrinks.of_some (h : Shrinks t t') (he : t'.get? q = some e) : t.get? q = some e := by
  rcases h.get? q with hq | hq
  · rw [← hq, he]
  · rw [hq] at he; cases he

/-- A walk with fewer entries that misses none of those it asks for is the walk with all of them. -/
theorem Walks.of_shrinks (h : Shrinks t t') {follow : Bool} {links : Nat} {start : Location} {names : List String}
    {w : Except Cause Place} (hw : Walks t' follow links start names w) (hentry : w ≠ .error .noEntry)
    (hmissing : ∀ parent name, w ≠ .ok (.missing parent name)) : Walks t follow links start names w := by
  induction hw with
  | done => exact .done
  | here _ ih => exact .here (ih hentry hmissing)
  | up _ ih => exact .up (ih hentry hmissing)
  | long hhere hup hlong => exact .long hhere hup hlong
  | missing => exact absurd rfl (hmissing _ _)
  | noEntry => exact absurd rfl hentry
  | dir hn hg _ ih => exact .dir hn (h.of_some hg) (ih hentry hmissing)
  | file hn hg => exact .file hn (h.of_some hg)
  | notDirectory hn hg hrest => exact .notDirectory hn (h.of_some hg) hrest
  | link hn hg hmeant => exact .link hn (h.of_some hg) hmeant
  | tooManyLinks hn hg hfollow => exact .tooManyLinks hn (h.of_some hg) hfollow
  | through hn hg hfollow _ ih => exact .through hn (h.of_some hg) hfollow (ih hentry hmissing)

theorem walk_eq_of_shrinks (h : Shrinks t t') {follow : Bool} {links : Nat} {start : Location} {names : List String}
    {w : Except Cause Place} (hw : t'.walk follow links start names = w) (hentry : w ≠ .error .noEntry)
    (hmissing : ∀ parent name, w ≠ .ok (.missing parent name)) : t.walk follow links start names = w :=
  walks_iff.mp ((walks_iff.mpr hw).of_shrinks h hentry hmissing)

/-- What a walk finds with fewer entries it finds with all of them. -/
theorem walk_of_shrinks (h : Shrinks t t') {follow : Bool} {links : Nat} {start : Location} {names : List String}
    (hw : t'.walk follow links start names = .ok (.found place e)) :
    t.walk follow links start names = .ok (.found place e) :=
  walk_eq_of_shrinks h hw nofun nofun

/-- A walk that ends in a directory goes on from there, with the links that are left. -/
theorem Walks.append {links : Nat} {start : Location} {names : List String} {w : Except Cause Place}
    (h : Walks t true links start names w) (hw : w = .ok (.found o .dir)) :
    ∃ m, ∀ rest, rest ≠ [] → ∀ follow w', Walks t follow m o rest w' → Walks t follow links start (names ++ rest) w' := by
  induction h with
  | @done links start =>
    cases hw
    exact ⟨links, fun rest _ follow w' h' => h'⟩
  | here _ ih =>
    obtain ⟨m, hm⟩ := ih hw
    exact ⟨m, fun rest hr follow w' h' => .here (hm rest hr follow w' h')⟩
  | up _ ih =>
    obtain ⟨m, hm⟩ := ih hw
    exact ⟨m, fun rest hr follow w' h' => .up (hm rest hr follow w' h')⟩
  | dir hn hg _ ih =>
    obtain ⟨m, hm⟩ := ih hw
    exact ⟨m, fun rest hr follow w' h' => .dir hn hg (hm rest hr follow w' h')⟩
  | through hn hg _ _ ih =>
    obtain ⟨m, hm⟩ := ih hw
    refine ⟨m, fun rest hr follow w' h' => ?_⟩
    have hgoes := hm rest hr follow w' h'
    rw [List.append_assoc] at hgoes
    exact .through hn hg (by simp [hr]) hgoes
  | _ => cases hw

/-- No name in the tree is one of the two that walks read as directions. -/
def HasPlainNames (t : Tree) : Prop := ∀ entry ∈ t.entries, ∀ name ∈ entry.1, name ≠ "." ∧ name ≠ ".."

/-- With one name left a walk ends at that name, if it finds anything. -/
theorem walk_singleton {links : Nat} {name : String} (h1 : name ≠ ".") (h2 : name ≠ "..")
    (h : t.walk false links o [name] = .ok (.found place e)) : place = o ++ [name] := by
  cases walks_iff.mpr h with
  | here => exact absurd rfl h1
  | up => exact absurd rfl h2
  | dir _ _ h =>
    cases h
    rfl
  | file | link => rfl
  | through _ _ hfollow => cases hfollow rfl

/-- The path of a name in a directory leads to the entry of that name, if it leads anywhere. -/
theorem find_name (h : Shrinks t t') {output : Path} (ho : t.find true output = .ok (.found o .dir)) {name : String}
    (h1 : name ≠ ".") (h2 : name ≠ "..") (hf : t'.find false (output.join ⟨"", [name]⟩) = .ok (.found place e)) :
    place = o ++ [name] := by
  have hparts : (output.join ⟨"", [name]⟩).parts = output.parts ++ [name] := by simp [Path.join, Path.isAbsolute]
  have hstart : t.startOf (output.join ⟨"", [name]⟩) = t.startOf output := by
    simp [Path.join, Path.isAbsolute, startOf]
  obtain ⟨m, hm⟩ := (walks_iff.mpr (find_eq_ok.mp ho).2).append rfl
  have hwalk := walk_of_shrinks h (find_eq_ok.mp hf).2
  have hon := walks_iff.mp (hm [name] (by simp) false _ (walks_walk t false m o [name]))
  rw [startOf_of_here h.here, hstart, hparts, hon] at hwalk
  exact walk_singleton h1 h2 hwalk

/-! ## Removing one name -/

theorem shrinks_remove (t : Tree) (place : Location) : Shrinks t (t.remove place) := by
  refine ⟨rfl, fun q => ?_⟩
  by_cases hq : q = []
  · exact Or.inl (by simp [hq])
  · rw [get?_remove t place hq]
    split
    · exact Or.inr rfl
    · exact Or.inl rfl

theorem shrinks_empty (t : Tree) (place : Location) : Shrinks t (t.empty place) := by
  refine ⟨rfl, fun q => ?_⟩
  by_cases hq : q = []
  · exact Or.inl (by simp [hq])
  · rw [get?_empty t place hq]
    split
    · exact Or.inr rfl
    · exact Or.inl rfl

/-- `u` is `t` without entries at or below `place`; if `all` is set, without any of them. -/
structure Removes (place : Location) (all : Prop) (t u : Tree) : Prop where
  shrinks : Shrinks t u
  untouched : ∀ q, ¬ place <+: q → u.get? q = t.get? q
  gone : all → ∀ q, place <+: q → u.get? q = none

theorem Removes.nothing (place : Location) (t : Tree) {all : Prop} (h : ¬ all) : Removes place all t t :=
  ⟨Shrinks.refl t, fun _ _ => rfl, fun ha => absurd ha h⟩

theorem removes_remove (t : Tree) (h : place ≠ []) (all : Prop) : Removes place all t (t.remove place) := by
  refine ⟨shrinks_remove t place, fun q hq => ?_, fun _ q hq => ?_⟩
  · by_cases hn : q = []
    · simp [hn]
    · rw [get?_remove t place hn, if_neg (by simpa using hq)]
  · have hn : q ≠ [] := by rintro rfl; exact h (List.prefix_nil.mp hq)
    rw [get?_remove t place hn, if_pos (by simpa using hq)]

/-- Emptying a directory before it is removed takes nothing else away. -/
theorem Removes.emptied {all : Prop} (h : Removes place all (t.empty place) u) : Removes place all t u := by
  refine ⟨(shrinks_empty t place).trans h.shrinks, fun q hq => ?_, h.gone⟩
  rw [h.untouched q hq]
  by_cases hn : q = []
  · simp [hn]
  · rw [get?_empty t place hn, if_neg]
    simp only [isBelow, Bool.and_eq_true, not_and]
    exact fun hp => absurd (List.isPrefixOf_iff_prefix.mp hp) hq

variable {output : Path} {name : String}

theorem removes_removeDir (h : Shrinks t t') (ho : t.find true output = .ok (.found o .dir)) (h1 : name ≠ ".")
    (h2 : name ≠ "..") :
    Removes (o ++ [name]) ((t'.removeDir (output.join ⟨"", [name]⟩)).trouble = none) t'
      (t'.removeDir (output.join ⟨"", [name]⟩)).tree := by
  unfold removeDir
  split
  · rename_i place hf
    obtain rfl := find_name h ho h1 h2 hf
    have he := h.trans (shrinks_empty t' (o ++ [name]))
    simp only
    split
    · rename_i place _ hf'
      obtain rfl := find_name he ho h1 h2 hf'
      exact (removes_remove _ (by simp) _).emptied
    · exact (Removes.nothing _ _ (by simp)).emptied
    · exact (Removes.nothing _ _ (by simp)).emptied
  · exact Removes.nothing _ _ (by simp)
  · exact Removes.nothing _ _ (by simp)
  · exact Removes.nothing _ _ (by simp)

theorem removes_removeFile (h : Shrinks t t') (ho : t.find true output = .ok (.found o .dir)) (h1 : name ≠ ".")
    (h2 : name ≠ "..") :
    Removes (o ++ [name]) ((t'.attempt (t'.removeFile (output.join ⟨"", [name]⟩))).trouble = none) t'
      (t'.attempt (t'.removeFile (output.join ⟨"", [name]⟩))).tree := by
  cases hr : t'.removeFile (output.join ⟨"", [name]⟩) with
  | error e => exact Removes.nothing _ _ (by simp [attempt])
  | ok u =>
    obtain ⟨place, entry, hf, rfl⟩ : ∃ place entry, t'.find false (output.join ⟨"", [name]⟩) = .ok (.found place entry) ∧
        u = t'.remove place := by
      unfold removeFile at hr
      cases hf : t'.find false (output.join ⟨"", [name]⟩) with
      | error e => simp [hf, bind, Except.bind] at hr
      | ok found =>
        cases found with
        | missing parent name => simp [hf, bind, Except.bind] at hr
        | found place entry =>
          cases entry with
          | dir => simp [hf, bind, Except.bind] at hr
          | file bytes => exact ⟨place, _, rfl, by simpa [hf, bind, Except.bind] using hr.symm⟩
          | link target => exact ⟨place, _, rfl, by simpa [hf, bind, Except.bind] using hr.symm⟩
    obtain rfl := find_name h ho h1 h2 hf
    exact removes_remove t' (by simp) _

theorem removes_removeAt (h : Shrinks t t') (ho : t.find true output = .ok (.found o .dir)) (h1 : name ≠ ".")
    (h2 : name ≠ "..") :
    Removes (o ++ [name]) ((t'.removeAt (output.join ⟨"", [name]⟩)).trouble = none) t'
      (t'.removeAt (output.join ⟨"", [name]⟩)).tree := by
  unfold removeAt
  split
  · exact removes_removeDir h ho h1 h2
  · exact removes_removeFile h ho h1 h2
  · exact Removes.nothing _ _ (by simp)

/-! ## Clearing -/

/-- Names in a directory are removed one after the other, up to the first trouble. -/
theorem removes_removeAll (ho : t.find true output = .ok (.found o .dir)) (names : List String)
    (hn : ∀ n ∈ names, n ≠ "." ∧ n ≠ "..") (t' : Tree) (h : Shrinks t t') :
    let change := t'.removeAll (names.map fun n => output.join ⟨"", [n]⟩)
    Shrinks t' change.tree ∧
      (∀ q, (∀ n ∈ names, ¬ o ++ [n] <+: q) → change.tree.get? q = t'.get? q) ∧
      (change.trouble = none → ∀ n ∈ names, ∀ q, o ++ [n] <+: q → change.tree.get? q = none) := by
  induction names generalizing t' with
  | nil => exact ⟨Shrinks.refl t', fun _ _ => rfl, fun _ n hm => by cases hm⟩
  | cons name names ih =>
    obtain ⟨h1, h2⟩ := hn name List.mem_cons_self
    have hr := removes_removeAt h ho h1 h2
    obtain ⟨hs, hu, hg⟩ := ih (fun n hm => hn n (List.mem_cons_of_mem _ hm)) _ (h.trans hr.shrinks)
    rw [List.map_cons, removeAll]
    cases ht : (t'.removeAt (output.join ⟨"", [name]⟩)).trouble with
    | some e =>
      simp only
      exact ⟨hr.shrinks, fun q hq => hr.untouched q (hq name List.mem_cons_self), fun hnone => by rw [ht] at hnone; cases hnone⟩
    | none =>
      simp only
      refine ⟨hr.shrinks.trans hs, fun q hq => ?_, fun hnone n hm q hq => ?_⟩
      · rw [hu q fun n hm => hq n (List.mem_cons_of_mem _ hm), hr.untouched q (hq name List.mem_cons_self)]
      · rcases List.mem_cons.mp hm with rfl | hm
        · rcases hs.get? q with hk | hk
          · rw [hk]; exact hr.gone ht q hq
          · exact hk
        · exact hg hnone n hm q hq

theorem mem_names {n : String} (h : n ∈ t.names place) : ∃ entry ∈ t.entries, n ∈ entry.1 := by
  obtain ⟨⟨p, e⟩, hm, hp⟩ := List.mem_filterMap.mp h
  rw [below, List.mem_mergeSort] at hm
  obtain ⟨⟨p', e'⟩, hm, he⟩ := List.mem_map.mp hm
  refine ⟨_, (List.mem_filter.mp hm).1, ?_⟩
  simp only [Prod.mk.injEq] at he
  have hpn : p = [n] := by
    split at hp
    · rename_i heq
      simp only [Prod.mk.injEq] at heq
      simp only [Option.some.injEq] at hp
      rw [heq.1, hp]
    · cases hp
  exact List.mem_of_mem_drop (by rw [he.1, hpn]; simp)

/-- The names in a directory that clearing removes. -/
def clearedNames (t : Tree) (place : Location) (keepGit : Bool) : List String :=
  (t.names place).filter fun name => !(keepGit && keptNames.contains name)

/-- A path that leads to a directory has that directory for its entry. -/
theorem entry?_of_find {p : Path} (h : t.find true p = .ok (.found place .dir)) : t.entry? p = .ok (some .dir) := by
  obtain ⟨hnull, hwalk⟩ := find_eq_ok.mp h
  unfold entry?
  rw [hnull, hwalk]
  rfl

/-- Clearing a directory takes away nothing but what lies at or below the names that it removes, and
  all of that if it meets no trouble. Where a path leads to no directory nothing is taken away. -/
theorem clear_spec (hn : t.HasPlainNames) (p : Path) (keepGit : Bool) :
    (∀ q, (∀ place, t.find true p = .ok (.found place .dir) → ∀ n ∈ t.clearedNames place keepGit, ¬ place ++ [n] <+: q) →
      (t.clear p keepGit).tree.get? q = t.get? q) ∧
    ((t.clear p keepGit).trouble = none → ∀ place, t.find true p = .ok (.found place .dir) →
      ∀ n ∈ t.clearedNames place keepGit, ∀ q, place ++ [n] <+: q → (t.clear p keepGit).tree.get? q = none) := by
  by_cases hd : ∃ place, t.find true p = .ok (.found place .dir)
  · obtain ⟨place, hf⟩ := hd
    have hc : t.clear p keepGit = t.removeAll ((t.clearedNames place keepGit).map fun n => p.join ⟨"", [n]⟩) := by
      simp [clear, entry?_of_find hf, hf, clearedNames]
    have hplain : ∀ n ∈ t.clearedNames place keepGit, n ≠ "." ∧ n ≠ ".." := fun n hm => by
      obtain ⟨entry, he, hne⟩ := mem_names (List.mem_filter.mp hm).1
      exact hn entry he n hne
    obtain ⟨-, hu, hg⟩ := removes_removeAll hf _ hplain t (Shrinks.refl t)
    rw [hc]
    refine ⟨fun q hq => hu q (hq place hf), fun htrouble place' hf' => ?_⟩
    obtain rfl : place = place' := by
      rw [hf] at hf'
      exact (Place.found.inj (Except.ok.inj hf')).1
    exact hg htrouble
  · -- Every other way leaves the tree as it is.
    have ht : (t.clear p keepGit).tree = t := by
      unfold clear
      split
      · rfl
      · rfl
      · split
        · rename_i place hf
          exact absurd ⟨place, hf⟩ hd
        · rfl
        · rfl
    exact ⟨fun q _ => by rw [ht], fun _ place hf => absurd ⟨place, hf⟩ hd⟩

end CrudQueries.Files.Tree
