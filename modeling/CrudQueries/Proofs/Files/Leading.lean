/-
  CrudQueries.Proofs.Files.Leading — where a path still leads after the tree has changed.

  A walk depends only on the directories and links that it passes (`linksPassed`). So it ends at the same
  place in a tree that has these still (`Walks.passes`), whatever else was added to it. A file that is
  replaced comes where its path leads at that moment (`replace_leads`), and is read there as long as no
  link on the way is taken away (`read_passes`). Where there are no links at all a walk ends where the
  names of its path say (`walk_noLinks`).
-/

import CrudQueries.Proofs.Files.Frame

namespace CrudQueries.Files

/-- The location where a walk ends. -/
def Place.location : Place → Location
  | .found place _ => place
  | .missing parent name => parent ++ [name]

namespace Tree

variable {t u : Tree} {place start : Location} {e : Entry} {bytes : ByteArray} {links : Nat} {name : String}
  {names rest : List String} {p : Path} {w : Place}

/-! ## Links on the way -/

/-- The links that a walk replaces if its last name is itself meant. -/
def linksPassed (t : Tree) (links : Nat) (place : Location) (names : List String) : List Location :=
  match names with
  | [] => []
  | name :: rest =>
    if name == "." then t.linksPassed links place rest
    else if name == ".." then t.linksPassed links place.dropLast rest
    else
      match t.get? (place ++ [name]) with
      | some .dir => t.linksPassed links (place ++ [name]) rest
      | some (.link target) =>
        if rest.isEmpty then []
        else
          match links with
          | 0 => []
          | links + 1 =>
            (place ++ [name]) :: t.linksPassed links (targetStart place target) (targetNames target ++ rest)
      | _ => []
termination_by (links, names.length)

/-- The links on the way of a path. -/
def linksTo (t : Tree) (p : Path) : List Location := t.linksPassed maxLinks (t.startOf p) p.parts

/-- Of a name that is looked up only a link counts, and only if names come after it. -/
theorem linksPassed_name (hn : LookedUp name) :
    t.linksPassed links place (name :: rest) =
      match t.get? (place ++ [name]) with
      | some .dir => t.linksPassed links (place ++ [name]) rest
      | some (.link target) =>
        if rest.isEmpty then []
        else
          match links with
          | 0 => []
          | links + 1 =>
            (place ++ [name]) :: t.linksPassed links (targetStart place target) (targetNames target ++ rest)
      | _ => [] := by
  rw [linksPassed, if_neg (by simpa using hn.notHere), if_neg (by simpa using hn.notUp)]

/-- Where the directories and the links on its way are kept a walk ends as before, at the file that is there now. -/
theorem Walks.passes {r : Except Cause Place} (h : Walks t false links start names r) (hr : r = .ok w)
    (hdir : ∀ q, t.get? q = some .dir → u.get? q = some .dir)
    (hlink : ∀ q ∈ t.linksPassed links start names, ∀ e, t.get? q = some e → u.get? q = some e)
    (hend : ∀ q, w ≠ .found q .dir) (hf : u.get? w.location = some (.file bytes)) :
    Walks u false links start names (.ok (.found w.location (.file bytes))) := by
  induction h with
  | done =>
    cases hr
    exact absurd rfl (hend _)
  | here _ ih =>
    rw [linksPassed, if_pos (by decide)] at hlink
    exact .here (ih hr hlink)
  | up _ ih =>
    rw [linksPassed, if_neg (by decide), if_pos (by decide)] at hlink
    exact .up (ih hr hlink)
  | dir hn hg _ ih =>
    rw [linksPassed_name hn, hg] at hlink
    exact .dir hn (hdir _ hg) (ih hr hlink)
  -- Whatever was at the end of the names, the file is there now.
  | missing hn | file hn | link hn =>
    cases hr
    exact .file hn hf
  | through hn hg hfollow _ ih =>
    have hmore : ¬ List.isEmpty _ = true := fun hlast => nomatch hfollow (List.isEmpty_iff.mp hlast)
    simp only [linksPassed_name hn, hg, if_neg hmore] at hlink
    have hkept := hlink _ List.mem_cons_self _ hg
    exact .through hn hkept hfollow (ih hr fun q hq => hlink q (List.mem_cons_of_mem _ hq))
  | long | noEntry | notDirectory | tooManyLinks => cases hr

/-- Following the last link makes no difference to a walk that ends at a file. -/
theorem walk_follow {follow : Bool} (hw : t.walk follow links start names = .ok (.found place (.file bytes))) :
    t.walk true links start names = .ok (.found place (.file bytes)) := by
  rw [← walks_iff] at hw ⊢
  generalize hr : Except.ok (Place.found place (.file bytes)) = r at hw ⊢
  induction hw with
  | done => exact .done
  | here _ ih => exact .here (ih hr)
  | up _ ih => exact .up (ih hr)
  | dir hn hg _ ih => exact .dir hn hg (ih hr)
  | file hn hg => exact .file hn hg
  | through hn hg _ _ ih => exact .through hn hg (fun _ => rfl) (ih hr)
  | long | missing | noEntry | notDirectory | link | tooManyLinks => cases hr

/-! ## Paths -/

/-- A path reads the file where it led, if it led to no directory and the links on its way are kept. -/
theorem read_passes (hhere : u.here = t.here) (hdir : ∀ q, t.get? q = some .dir → u.get? q = some .dir)
    (hlink : ∀ q ∈ t.linksTo p, ∀ e, t.get? q = some e → u.get? q = some e)
    (hfind : t.find false p = .ok w) (hend : ∀ q, w ≠ .found q .dir) (hf : u.get? w.location = some (.file bytes)) :
    u.read p = .ok bytes := by
  obtain ⟨hnull, hw⟩ := find_eq_ok.mp hfind
  have hpasses := (walks_iff.mpr hw).passes rfl hdir hlink hend hf
  have hwalk := walk_follow (walks_iff.mp hpasses)
  rw [← startOf_of_here hhere] at hwalk
  have hfind' := find_eq_ok.mpr ⟨hnull, hwalk⟩
  simp [read, hfind', bind, Except.bind]

/-- A file that is replaced is put where its path leads, and that is no directory. -/
theorem replace_leads (h : t.replace p bytes = .ok u) :
    ∃ w, t.find false p = .ok w ∧ (∀ q, w ≠ .found q .dir) ∧ t.get? w.location ≠ some .dir ∧
      t.destination? false p = some w.location ∧ u = t.put w.location (.file bytes) := by
  obtain ⟨hnull, ⟨parent, name, hw, hu⟩ | ⟨place, e, hw, he, hu⟩⟩ := replace_cases h
  · refine ⟨_, find_eq_ok.mpr ⟨hnull, hw⟩, by simp, ?_, by rw [destination?, hw]; rfl, hu⟩
    simp [Place.location, walk_missing hw]
  · refine ⟨_, find_eq_ok.mpr ⟨hnull, hw⟩, by simp [he], ?_, by rw [destination?, hw]; rfl, hu⟩
    simp [Place.location, ((walk_found hw).resolve_left he).2, he]

/-! ## Trees without links -/

/-- The location that the names of a path describe, every name before two dots taken back. -/
def namedLocation (t : Tree) (p : Path) : Location := plainLocation (t.startOf p) p.parts

/-- Nothing in the tree is a link. -/
def NoLinks (t : Tree) : Prop := ∀ q target, t.get? q ≠ some (.link target)

theorem plainLocation_name (hn : LookedUp name) (start : Location) (rest : List String) :
    plainLocation start (name :: rest) = plainLocation (start ++ [name]) rest := by
  unfold plainLocation
  rw [List.foldl_cons, if_neg (by simpa using hn.notHere), if_neg (by simpa using hn.notUp)]

/-- Without links a walk ends where the names say. -/
theorem walk_noLinks (h : NoLinks t) {follow : Bool} (hw : t.walk follow links start names = .ok w) :
    w.location = plainLocation start names := by
  rw [← walks_iff] at hw
  generalize hr : Except.ok w = r at hw
  induction hw with
  | done =>
    cases hr
    rfl
  | here _ ih | up _ ih => exact ih hr
  | dir hn _ _ ih => rw [ih hr, plainLocation_name hn]
  | missing hn | file hn =>
    cases hr
    rw [plainLocation_name hn]
    rfl
  | link _ hg | through _ hg => exact absurd hg (h _ _)
  | long | noEntry | notDirectory | tooManyLinks => cases hr

/-- The location that a path describes has its last name. -/
theorem getLast?_namedLocation {front : List String} {name : String} (hp : p.parts = front ++ [name])
    (hhere : name ≠ ".") (hup : name ≠ "..") : (t.namedLocation p).getLast? = some name := by
  have hlast : ∀ start : Location, plainLocation start (front ++ [name]) = plainLocation start front ++ [name] := by
    intro start
    unfold plainLocation
    rw [List.foldl_append, List.foldl_cons, List.foldl_nil, if_neg (by simpa using hhere), if_neg (by simpa using hup)]
  rw [namedLocation, hp, hlast, List.getLast?_concat]

/-- Links on the way of a path are in the tree. -/
theorem link_of_linksPassed {q : Location} (hq : q ∈ t.linksPassed links start names) :
    ∃ target, t.get? q = some (.link target) := by
  fun_induction linksPassed t links start names with
  | case2 => rename_i ih; exact ih hq
  | case3 => rename_i ih; exact ih hq
  | case4 => rename_i ih; exact ih hq
  | case7 =>
    rename_i hg _ _ ih
    rcases List.mem_cons.mp hq with rfl | hq
    · exact ⟨_, hg⟩
    · exact ih hq
  | _ => cases hq

end Tree

end CrudQueries.Files
