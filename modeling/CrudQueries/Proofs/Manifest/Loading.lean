/-
  CrudQueries.Proofs.Manifest.Loading — what a JSON file holds is what its text says.

  A path with the suffix of JSON that leads to a file is loaded as the text of that file is read, if the text has no
  carriage returns (`loadDocument_of_find`).
-/

import CrudQueries.Manifest.Document
import CrudQueries.Proofs.Files.Resolved
import CrudQueries.Proofs.Files.Written

namespace CrudQueries.Manifest

open CrudQueries.Files (Location Path Tree)
open CrudQueries.Text (Utf8.encode)

theorem loadDocument_of_find {t : Tree} {p : Path} {place : Location} {text : String} (hsuffix : suffixOf p = ".json")
    (hplain : '\r' ∉ text.toList) (h : t.find true p = .ok (.found place (.file (Utf8.encode text)))) :
    loadDocument t p = ofJson p.text text := by
  have hentry := Tree.entry?_eq_some_iff.mpr ⟨place, h⟩
  have htext := Tree.readText_of_find hplain h
  simp only [loadDocument, checkFile, hentry, readDocument, hsuffix, htext, bind, Except.bind]
  rfl

end CrudQueries.Manifest
