/-
  CrudQueries.Proofs.Files.Written — what is written to a path is found there.

  Where a walk misses the last name of a path, it finds the file that is put there (`walk_put_missing`); where it
  finds a file, it finds that file's new bytes. So whatever is written to a path is found there afterwards
  (`find_of_write`), and a text without carriage returns is read as it was encoded (`readText_of_find`).
-/

import CrudQueries.Files.Reading
import CrudQueries.Proofs.Files.Refilled
import CrudQueries.Proofs.Text.Lines
import CrudQueries.Proofs.Text.Utf8

namespace CrudQueries.Files.Tree

variable {t u : Tree} {start parent : Location} {names : List String} {name : String} {links : Nat} {bytes : ByteArray}
  {p : Path}

/-- A file that is put where a walk misses the last name is what the walk finds: up to there it passes entries, and
  nothing was at the place of the file. -/
theorem walk_put_missing (bytes : ByteArray) (h : t.walk true links start names = .ok (.missing parent name)) :
    (t.put (parent ++ [name]) (.file bytes)).walk true links start names =
      .ok (.found (parent ++ [name]) (.file bytes)) := by
  have hfree : t.get? (parent ++ [name]) = none := walk_missing h
  have hkeep : ∀ q e, t.get? q = some e → (t.put (parent ++ [name]) (.file bytes)).get? q = some e := by
    intro q e hq
    have hne : q ≠ parent ++ [name] := by
      rintro rfl
      rw [hfree] at hq
      cases hq
    rw [get?_put_ne t hne, hq]
  rw [← walks_iff] at h ⊢
  generalize hr : Except.ok (Place.missing parent name) = r at h
  induction h with
  | here _ ih => exact .here (ih hr)
  | up _ ih => exact .up (ih hr)
  | missing hn =>
    cases hr
    exact .file hn (get?_put_self t (by simp) _)
  | dir hn hg _ ih => exact .dir hn (hkeep _ _ hg) (ih hr)
  | through hn hg hfollow _ ih => exact .through hn (hkeep _ _ hg) hfollow (ih hr)
  | _ => cases hr

/-- What is written to a path is found there. -/
theorem find_of_write (h : t.write p bytes = .ok u) : ∃ place, u.find true p = .ok (.found place (.file bytes)) := by
  unfold write at h
  cases hfind : t.find true p with
  | error e =>
    rw [hfind] at h
    cases h
  | ok w =>
    rw [hfind] at h
    cases w with
    | missing parent name =>
      obtain rfl := Except.ok.inj h
      obtain ⟨hnull, hwalk⟩ := find_eq_ok.mp hfind
      exact ⟨_, find_eq_ok.mpr ⟨hnull, walk_put_missing bytes hwalk⟩⟩
    | found place e =>
      cases e with
      | dir => cases h
      | link target => cases h
      | file old =>
        obtain rfl := Except.ok.inj h
        obtain ⟨-, hwalk⟩ := find_eq_ok.mp hfind
        have hfile : t.get? place = some (.file old) := ((walk_found hwalk).resolve_left nofun).2
        -- The walk meets no bytes, so it comes to the same place.
        refine ⟨place, ?_⟩
        rw [find_refill hfile, hfind]
        simp [Except.map, Place.refill]

/-- The text of a file is read as it was encoded, unless a carriage return in it is read as a line end. -/
theorem readText_of_find {place : Location} {text : String} (hplain : '\r' ∉ text.toList)
    (h : t.find true p = .ok (.found place (.file (Text.Utf8.encode text)))) : t.readText p = .ok text := by
  have hread : t.read p = .ok (Text.Utf8.encode text) := by simp only [read, h, bind, Except.bind]
  have hlines : String.ofList (Text.normalNewlines text.toList) = text := by
    rw [Text.normalNewlines_eq_self hplain, String.ofList_toList]
  simp only [readText, hread, Text.Utf8.decode_encode, Except.mapError, bind, Except.bind, hlines]

end CrudQueries.Files.Tree
