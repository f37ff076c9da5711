/-
  CrudQueries.Proofs.Discovery.Table — whether the table of a type is the one that its class names.

  When the body of a class has been run, its table is what `TableName` is bound to last. A scan does not run it, and
  takes the first statement that assigns to the name or annotates it. So the table of an entity is that of its class
  exactly if the two agree (`scan_tables`), as they do in any class that names its table once.

  They need not in a class that names it again: the first text is taken of two (`first_table_taken`), and after an
  annotation alone none is, though nothing is bound by that.
-/

import CrudQueries.Proofs.Discovery.Marked
import CrudQueries.Proofs.Source.Binding

namespace CrudQueries.Discovery

open CrudQueries.Fragment (tableMember)
open CrudQueries.Source (ClassDef Executes Resolves Stmt assignedText assignedText_of_once executes_literal_iff read?
  resolves_iff settledText)

-- An empty sum is the numeral, whatever else is imported.
attribute [local instance (high)] Zero.ofOfNat0

variable {source marker : String} {origin : Origin}

/-- How often the body of a class names its table. -/
def tableMentions (c : ClassDef) : Nat := (c.body.map (Stmt.mentions tableMember)).sum

theorem table_of_finding? {c : ClassDef} {f : Finding} (h : finding? marker origin c = some f) :
    f.entity.table = assignedText tableMember c.body := by
  unfold finding? at h
  split at h
  · cases h
  · obtain rfl := Option.some.inj h
    rfl

/-- The table of each entity tells what the class binds `TableName` to exactly if the first assignment and the last
  binding in the body of the class give the same text. They do if the body names it no more than once. -/
theorem scan_tables (hn : '\x00' ∉ source.toList) {body : List Stmt} (hr : read? source = some body) (marker : String)
    (origin : Origin) :
    ∃ found, scan source marker origin = .ok found ∧
      List.Forall₂
        (fun c e =>
          (Resolves tableMember c.body e.table ↔ assignedText tableMember c.body = settledText tableMember c.body) ∧
          (tableMentions c ≤ 1 → Resolves tableMember c.body e.table))
        ((Stmt.classesOf body).filter fun c => ∃ d ∈ c.decorators, IsMarker marker d) (found.map (·.entity)) := by
  refine ⟨_, scan_of_read hn hr, forall₂_findings (fun c f h => ?_) _⟩
  rw [resolves_iff, table_of_finding? h]
  exact ⟨Iff.rfl, assignedText_of_once⟩

/-- A class that names its table twice. -/
def renamedSource : String := "@QueryFields('title')\nclass Item:\n    TableName = 'old'\n    TableName = 'items'\n"

/-- Its one class ends up with the second text. -/
theorem read?_renamed : ∃ body c, read? renamedSource = some body ∧ Stmt.classesOf body = [c] ∧
    settledText tableMember c.body = some "items" := by
  have h : (read? renamedSource).map (fun body => (Stmt.classesOf body).map fun c => settledText tableMember c.body) =
      some [some "items"] := by
    decide +kernel
  obtain ⟨body, hr, hclasses⟩ := Option.map_eq_some_iff.mp h
  obtain ⟨c, hc, hsettled⟩ := List.map_eq_singleton_iff.mp hclasses
  exact ⟨body, c, hr, hc, hsettled⟩

theorem scan_tables_renamed :
    '\x00' ∉ renamedSource.toList ∧ ∃ body, read? renamedSource = some body ∧
      ∃ found, scan renamedSource "QueryFields" {} = .ok found ∧
        List.Forall₂
          (fun c e =>
            (Resolves tableMember c.body e.table ↔ assignedText tableMember c.body = settledText tableMember c.body) ∧
            (tableMentions c ≤ 1 → Resolves tableMember c.body e.table))
          ((Stmt.classesOf body).filter fun c => ∃ d ∈ c.decorators, IsMarker "QueryFields" d)
          (found.map (·.entity)) := by
  have hn : '\x00' ∉ renamedSource.toList := by decide
  obtain ⟨body, c, hr, -⟩ := read?_renamed
  exact ⟨hn, body, hr, scan_tables hn hr _ _⟩

/-- The first of two texts is taken, though the class ends up with the second. -/
theorem first_table_taken :
    ∃ body c found, read? renamedSource = some body ∧ Stmt.classesOf body = [c] ∧
      Executes tableMember c.body .unbound (.literal "items") ∧
      scan renamedSource "QueryFields" {} = .ok found ∧ found.map (·.entity.table) = [some "old"] ∧
      ¬ Resolves tableMember c.body (some "old") := by
  obtain ⟨body, c, hr, hc, hsettled⟩ := read?_renamed
  have htables : (scan renamedSource "QueryFields" {}).toOption.map (·.map (·.entity.table)) = some [some "old"] := by
    decide +kernel
  obtain ⟨found, hfound, hold⟩ := Option.map_eq_some_iff.mp htables
  have hscan : scan renamedSource "QueryFields" {} = .ok found := by
    cases hs : scan renamedSource "QueryFields" {} with
    | error e =>
      rw [hs] at hfound
      cases hfound
    | ok all =>
      rw [hs] at hfound
      rw [Option.some.inj hfound]
  refine ⟨body, c, found, hr, hc, executes_literal_iff.mpr hsettled, hscan, hold, fun h => ?_⟩
  have hsame := resolves_iff.mp h
  rw [hsettled] at hsame
  exact absurd hsame (by decide)

/-- An annotation alone binds nothing, but the assignment after it is not looked at. -/
example : (scan "@QueryFields('title')\nclass Item:\n    TableName: str\n    TableName = 'items'\n" "QueryFields"
    {}).toOption.map (·.map (·.entity.table)) = some [none] := by
  decide +kernel

end CrudQueries.Discovery
