/-
  CrudQueries.Proofs.Files.Refilled — a file whose bytes are replaced.

  When a file that is there is given other bytes, every walk ends where it did (`walk_refill`), and all paths but
  those that lead to the file are read as before (`read_refill`). The tree stays well-formed and lists what it did
  in the same order (`below_refill`).
-/

import CrudQueries.Proofs.Files.Cleared
import CrudQueries.Proofs.Files.Named

namespace CrudQueries.Files

/-- The end of a walk when the file at `place` has the bytes `new`. -/
def Place.refill (place : Location) (new : ByteArray) : Place → Place
  | .found q (.file bytes) => .found q (.file (if q = place then new else bytes))
  | w => w

namespace Tree

variable {t : Tree} {place : Location} {old : ByteArray} {p : Path}

/-- The location of the file that a path is read from. -/
def readsFrom? (t : Tree) (p : Path) : Option Location :=
  match t.find true p with
  | .ok (.found q (.file _)) => some q
  | _ => none

section

variable (h : t.get? place = some (.file old)) (new : ByteArray)
include h

theorem ne_nil_of_file : place ≠ [] := by
  rintro rfl
  cases h

theorem get?_refill_file {q : Location} {bytes : ByteArray} (hq : t.get? q = some (.file bytes)) :
    (t.put place (.file new)).get? q = some (.file (if q = place then new else bytes)) := by
  by_cases hsame : q = place
  · rw [if_pos hsame, hsame, get?_put_self t (ne_nil_of_file h)]
  · rw [if_neg hsame, get?_put_ne t hsame, hq]

theorem get?_refill_other {q : Location} {found : Option Entry} (hq : t.get? q = found)
    (hother : ∀ bytes, found ≠ some (.file bytes)) : (t.put place (.file new)).get? q = found := by
  rw [get?_put_ne t, hq]
  rintro rfl
  exact hother old (hq.symm.trans h)

theorem Walks.refill {follow : Bool} {links : Nat} {start : Location} {names : List String} {w : Except Cause Place}
    (hw : Walks t follow links start names w) :
    Walks (t.put place (.file new)) follow links start names (w.map (Place.refill place new)) := by
  induction hw with
  | done => exact .done
  | here _ ih => exact .here ih
  | up _ ih => exact .up ih
  | long hhere hup hlong => exact .long hhere hup hlong
  | missing hn hg => exact .missing hn (get?_refill_other h new hg nofun)
  | noEntry hn hg hrest => exact .noEntry hn (get?_refill_other h new hg nofun) hrest
  | dir hn hg _ ih => exact .dir hn (get?_refill_other h new hg nofun) ih
  | file hn hg => exact .file hn (get?_refill_file h new hg)
  | notDirectory hn hg hrest => exact .notDirectory hn (get?_refill_file h new hg) hrest
  | link hn hg hmeant => exact .link hn (get?_refill_other h new hg nofun) hmeant
  | tooManyLinks hn hg hfollow =>
    exact .tooManyLinks hn (get?_refill_other h new hg nofun) hfollow
  | through hn hg hfollow _ ih => exact .through hn (get?_refill_other h new hg nofun) hfollow ih

theorem walk_refill (follow : Bool) (links : Nat) (start : Location) (names : List String) :
    (t.put place (.file new)).walk follow links start names =
      (t.walk follow links start names).map (Place.refill place new) :=
  ((walks_walk t follow links start names).refill h new).walk_eq

theorem find_refill (follow : Bool) (p : Path) :
    (t.put place (.file new)).find follow p = (t.find follow p).map (Place.refill place new) := by
  have hstart : (t.put place (.file new)).startOf p = t.startOf p := rfl
  unfold find
  rw [hstart, walk_refill h new]
  cases hasNull p with
  | true => rfl
  | false => cases t.walk follow maxLinks (t.startOf p) p.parts <;> rfl

/-- A path that leads to the file is read as its new bytes. -/
theorem read_refill (hp : t.readsFrom? p = some place) : (t.put place (.file new)).read p = .ok new := by
  unfold readsFrom? at hp
  split at hp
  · rename_i q bytes hfind
    obtain rfl := Option.some.inj hp
    have hfound : (t.put q (.file new)).find true p = .ok (.found q (.file new)) := by
      rw [find_refill h new, hfind]
      simp [Except.map, Place.refill]
    simp only [read, hfound, bind, Except.bind]
  · cases hp

/-- Any other path is read as before. -/
theorem read_refill_of_ne (hp : t.readsFrom? p ≠ some place) : (t.put place (.file new)).read p = t.read p := by
  unfold readsFrom? at hp
  simp only [read, find_refill h new]
  cases hfind : t.find true p with
  | error e => rfl
  | ok w =>
    cases w with
    | missing parent name => rfl
    | found q e =>
      cases e with
      | dir => rfl
      | link target => rfl
      | file bytes =>
        have hne : q ≠ place := by
          rintro rfl
          simp [hfind] at hp
        simp [Except.map, Place.refill, hne, bind, Except.bind]

theorem WellFormed.refill (hw : t.WellFormed) : (t.put place (.file new)).WellFormed := by
  obtain ⟨front, name, rfl⟩ : ∃ front name, place = front ++ [name] := by
    rcases List.eq_nil_or_concat place with rfl | ⟨front, name, rfl⟩
    · exact absurd rfl (ne_nil_of_file h)
    · exact ⟨front, name, List.concat_eq_append⟩
  obtain ⟨hname, hfits⟩ := hw.fits_of_get? h name (by simp)
  exact hw.put (hw.closed front name _ h) hname hfits (by simp [h]) new

/-- Below a directory there are the same names, in the same order. -/
theorem below_refill (o : Location) : ((t.put place (.file new)).below o).map (·.1) = (t.below o).map (·.1) := by
  have hkeys : (t.put place (.file new)).entries.map (·.1) = t.entries.map (·.1) :=
    Data.Entries.keys_put_of_mem _ (List.mem_map_of_mem (mem_of_get? h (ne_nil_of_file h)))
  rw [below_names, below_names, hkeys]

end

end Tree

end CrudQueries.Files
