/-
  CrudQueries.Proofs.Discovery.Unmarked — sources in which nothing is found.

  Without decorators there are no markers, so a source that is read and has none is scanned without
  findings. A source that is not read is malformed.
-/

import CrudQueries.Discovery.Scan
import CrudQueries.Proofs.Source.Layout

namespace CrudQueries.Discovery

open CrudQueries.Source (Bare ClassDef Stmt read?)

variable {source marker : String} {origin : Origin}

theorem finding?_undecorated {c : ClassDef} (h : c.decorators = []) : finding? marker origin c = none := by
  simp [finding?, ClassDef.markers, h]

/-- A source without decorated classes has no findings. -/
theorem scan_bare {ss : List Stmt} (hn : '\x00' ∉ source.toList) (hr : read? source = some ss) (hb : Bare ss) :
    scan source marker origin = .ok [] := by
  have hf : (Stmt.classesOf ss).filterMap (finding? marker origin) = [] :=
    List.filterMap_eq_nil_iff.mpr fun c hc => finding?_undecorated (hb c hc)
  simp [scan, hn, hr, hf]

theorem scan_malformed (hn : '\x00' ∉ source.toList) (hr : read? source = none) :
    scan source marker origin = .error (.malformed origin.fileName) := by
  simp [scan, hn, hr]

theorem scan_nullCharacter (hn : '\x00' ∈ source.toList) : scan source marker origin = .error .nullCharacter := by
  simp [scan, hn]

end CrudQueries.Discovery
