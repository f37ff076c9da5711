/-
  CrudQueries.Proofs.Files.Walks — walks as derivations.

  A walk takes names from a place one after the other. `Walks` says with one constructor for each kind of name how it
  goes on and where it ends, and that is what `walk` computes (`walks_iff`). So what a walk depends on, and how it
  changes with the tree, is shown by induction on its steps, and only here are the tests of `walk` taken apart.
-/

import CrudQueries.Files.Lookup

namespace CrudQueries.Files

/-- A name that walks look up: none of the two that they read as directions, and no longer than names are. -/
structure LookedUp (name : String) : Prop where
  notHere : name ≠ "."
  notUp : name ≠ ".."
  short : name.utf8ByteSize ≤ maxNameSize

/-- An entry that was found is there, unless it is a directory, and a name that was missing is not. -/
def Place.IsIn (t : Tree) : Place → Prop
  | .found place e => e = .dir ∨ (place ≠ [] ∧ t.get? place = some e)
  | .missing parent name => t.get? (parent ++ [name]) = none

namespace Tree

/-- A walk along names ends with a result. A link is replaced unless it comes last and is itself meant. -/
inductive Walks (t : Tree) (follow : Bool) : Nat → Location → List String → Except Cause Place → Prop
  | done {links : Nat} {place : Location} : Walks t follow links place [] (.ok (.found place .dir))
  | here {links : Nat} {place : Location} {rest : List String} {w : Except Cause Place}
      (h : Walks t follow links place rest w) : Walks t follow links place ("." :: rest) w
  | up {links : Nat} {place : Location} {rest : List String} {w : Except Cause Place}
      (h : Walks t follow links place.dropLast rest w) : Walks t follow links place (".." :: rest) w
  | long {links : Nat} {place : Location} {name : String} {rest : List String} (hhere : name ≠ ".") (hup : name ≠ "..")
      (hlong : maxNameSize < name.utf8ByteSize) : Walks t follow links place (name :: rest) (.error .nameTooLong)
  | missing {links : Nat} {place : Location} {name : String} (hn : LookedUp name)
      (hg : t.get? (place ++ [name]) = none) : Walks t follow links place [name] (.ok (.missing place name))
  | noEntry {links : Nat} {place : Location} {name : String} {rest : List String} (hn : LookedUp name)
      (hg : t.get? (place ++ [name]) = none) (hrest : rest ≠ []) :
      Walks t follow links place (name :: rest) (.error .noEntry)
  | dir {links : Nat} {place : Location} {name : String} {rest : List String} {w : Except Cause Place}
      (hn : LookedUp name) (hg : t.get? (place ++ [name]) = some .dir)
      (h : Walks t follow links (place ++ [name]) rest w) : Walks t follow links place (name :: rest) w
  | file {links : Nat} {place : Location} {name : String} {bytes : ByteArray} (hn : LookedUp name)
      (hg : t.get? (place ++ [name]) = some (.file bytes)) :
      Walks t follow links place [name] (.ok (.found (place ++ [name]) (.file bytes)))
  | notDirectory {links : Nat} {place : Location} {name : String} {rest : List String} {bytes : ByteArray}
      (hn : LookedUp name) (hg : t.get? (place ++ [name]) = some (.file bytes)) (hrest : rest ≠ []) :
      Walks t follow links place (name :: rest) (.error .notDirectory)
  | link {links : Nat} {place : Location} {name target : String} (hn : LookedUp name)
      (hg : t.get? (place ++ [name]) = some (.link target)) (hmeant : follow = false) :
      Walks t follow links place [name] (.ok (.found (place ++ [name]) (.link target)))
  | tooManyLinks {place : Location} {name target : String} {rest : List String} (hn : LookedUp name)
      (hg : t.get? (place ++ [name]) = some (.link target)) (hfollow : rest = [] → follow = true) :
      Walks t follow 0 place (name :: rest) (.error .tooManyLinks)
  | through {links : Nat} {place : Location} {name target : String} {rest : List String} {w : Except Cause Place}
      (hn : LookedUp name) (hg : t.get? (place ++ [name]) = some (.link target)) (hfollow : rest = [] → follow = true)
      (h : Walks t follow links (targetStart place target) (targetNames target ++ rest) w) :
      Walks t follow (links + 1) place (name :: rest) w

variable {t : Tree} {follow : Bool} {links : Nat} {place : Location} {name : String} {names rest : List String}
  {w : Except Cause Place}

theorem walk_here : t.walk follow links place ("." :: rest) = t.walk follow links place rest := by
  rw [walk, if_pos (by decide)]

theorem walk_up : t.walk follow links place (".." :: rest) = t.walk follow links place.dropLast rest := by
  rw [walk, if_neg (by decide), if_pos (by decide)]

/-- What a walk does with a name that it looks up. -/
theorem walk_name (hn : LookedUp name) :
    t.walk follow links place (name :: rest) =
      match t.get? (place ++ [name]) with
      | none => if rest.isEmpty then .ok (.missing place name) else .error .noEntry
      | some .dir => t.walk follow links (place ++ [name]) rest
      | some (.file bytes) => if rest.isEmpty then .ok (.found (place ++ [name]) (.file bytes)) else .error .notDirectory
      | some (.link target) =>
        if rest.isEmpty && !follow then .ok (.found (place ++ [name]) (.link target))
        else
          match links with
          | 0 => .error .tooManyLinks
          | links + 1 => t.walk follow links (targetStart place target) (targetNames target ++ rest) := by
  rw [walk, if_neg (by simpa using hn.notHere), if_neg (by simpa using hn.notUp)]
  exact if_neg (Nat.not_lt.mpr hn.short)

theorem lookedUp_of_tests (hhere : ¬ (name == ".") = true) (hup : ¬ (name == "..") = true)
    (hlong : ¬ name.utf8ByteSize > maxNameSize) : LookedUp name :=
  ⟨by simpa using hhere, by simpa using hup, Nat.not_lt.mp hlong⟩

theorem Walks.walk_eq (h : Walks t follow links place names w) : t.walk follow links place names = w := by
  induction h with
  | done => rw [walk]
  | here _ ih => rw [walk_here, ih]
  | up _ ih => rw [walk_up, ih]
  | long hhere hup hlong => rw [walk, if_neg (by simpa using hhere), if_neg (by simpa using hup), if_pos hlong]
  | missing hn hg =>
    rw [walk_name hn, hg]
    rfl
  | noEntry hn hg hrest => simp [walk_name hn, hg, hrest]
  | dir hn hg _ ih =>
    rw [walk_name hn, hg]
    exact ih
  | file hn hg =>
    rw [walk_name hn, hg]
    rfl
  | notDirectory hn hg hrest => simp [walk_name hn, hg, hrest]
  | link hn hg hmeant => simp [walk_name hn, hg, hmeant]
  | tooManyLinks hn hg hfollow =>
    rw [walk_name hn, hg]
    exact if_neg (by simpa using hfollow)
  | through hn hg hfollow _ ih =>
    rw [walk_name hn, hg]
    exact (if_neg (by simpa using hfollow)).trans ih

/-- Every walk has a derivation. -/
theorem walks_walk (t : Tree) (follow : Bool) (links : Nat) (place : Location) (names : List String) :
    Walks t follow links place names (t.walk follow links place names) := by
  fun_induction walk t follow links place names with
  | case1 => exact .done
  | case2 _ _ name _ hhere ih =>
    obtain rfl : name = "." := by simpa using hhere
    exact .here ih
  | case3 _ _ name _ _ hup ih =>
    obtain rfl : name = ".." := by simpa using hup
    exact .up ih
  | case4 _ _ _ _ hhere hup hlong => exact .long (by simpa using hhere) (by simpa using hup) hlong
  | case5 _ _ _ rest hhere hup hlong hg hrest =>
    obtain rfl : rest = [] := List.isEmpty_iff.mp hrest
    exact .missing (lookedUp_of_tests hhere hup hlong) hg
  | case6 _ _ _ _ hhere hup hlong hg hrest =>
    exact .noEntry (lookedUp_of_tests hhere hup hlong) hg (by simpa using hrest)
  | case7 _ _ _ _ hhere hup hlong hg ih => exact .dir (lookedUp_of_tests hhere hup hlong) hg ih
  | case8 _ _ _ rest hhere hup hlong _ hg hrest =>
    obtain rfl : rest = [] := List.isEmpty_iff.mp hrest
    exact .file (lookedUp_of_tests hhere hup hlong) hg
  | case9 _ _ _ _ hhere hup hlong _ hg hrest =>
    exact .notDirectory (lookedUp_of_tests hhere hup hlong) hg (by simpa using hrest)
  | case10 _ _ _ rest hhere hup hlong _ hg hlast =>
    obtain ⟨rfl, hmeant⟩ : rest = [] ∧ follow = false := by simpa using hlast
    exact .link (lookedUp_of_tests hhere hup hlong) hg hmeant
  | case11 _ _ _ hhere hup hlong _ hg hlast =>
    exact .tooManyLinks (lookedUp_of_tests hhere hup hlong) hg (by simpa using hlast)
  | case12 _ _ _ hhere hup hlong _ hg hlast _ ih =>
    exact .through (lookedUp_of_tests hhere hup hlong) hg (by simpa using hlast) ih

/-- Derivations end as walks do. -/
theorem walks_iff : Walks t follow links place names w ↔ t.walk follow links place names = w :=
  ⟨Walks.walk_eq, fun h => h ▸ walks_walk t follow links place names⟩

/-! ## Ends -/

/-- Walks end in the tree. -/
theorem Walks.isIn (h : Walks t follow links place names w) {found : Place} (hw : w = .ok found) : found.IsIn t := by
  induction h with
  | done =>
    cases hw
    exact .inl rfl
  | here _ ih | up _ ih | dir _ _ _ ih | through _ _ _ _ ih => exact ih hw
  | missing _ hg =>
    cases hw
    exact hg
  | file _ hg | link _ hg =>
    cases hw
    exact .inr ⟨by simp, hg⟩
  | long | noEntry | notDirectory | tooManyLinks => cases hw

variable {start parent q : Location} {e : Entry}

/-- What a walk finds is there, unless it is a directory, which may be where the walk began. -/
theorem walk_found (h : t.walk follow links start names = .ok (.found q e)) :
    e = .dir ∨ (q ≠ [] ∧ t.get? q = some e) :=
  (walks_iff.mpr h).isIn rfl

/-- A name that a walk misses is not there. -/
theorem walk_missing (h : t.walk follow links start names = .ok (.missing parent name)) :
    t.get? (parent ++ [name]) = none :=
  (walks_iff.mpr h).isIn rfl

end Tree

end CrudQueries.Files
