/-
  CrudQueries.Proofs.Discovery.Marked — what a scan finds.

  A decorator is the marker if its name, or the last part of it, is, whether it is called or not
  (`IsMarker`). A source that is read is scanned to one entity for each class that has such a
  decorator, and to none for any other class, in the order in which the `class` keywords stand in
  the source and at whatever depth (`scan_marked`). Each entity tells the name and the line of its
  class, how many markers this has, and what the first of them is given (`Describes`).
-/

import CrudQueries.Discovery.Scan
import CrudQueries.Proofs.Source.ClassOrder
import Mathlib.Data.List.Forall2

namespace CrudQueries.Discovery

open CrudQueries.Source (ClassDef Expr Stmt classHeads headsOf read? read?_classes)

/-! ## Markers -/

/-- A name, or an attribute, of which the last part is `marker`. -/
inductive EndsIn (marker : String) : Expr → Prop
  | name : EndsIn marker (.name marker)
  | attribute (e : Expr) : EndsIn marker (.attribute e marker)

/-- A decorator that is the marker, called or not. -/
inductive IsMarker (marker : String) : Expr → Prop
  | plain {e : Expr} : EndsIn marker e → IsMarker marker e
  | called {e : Expr} (line : Nat) (args : List Expr) (hasKeywords : Bool) :
      EndsIn marker e → IsMarker marker (.call line e args hasKeywords)

theorem lastName?_eq_some {marker : String} {e : Expr} : e.lastName? = some marker ↔ EndsIn marker e := by
  constructor
  · intro h
    unfold Expr.lastName? at h
    split at h <;> cases h
    · exact .name
    · exact .attribute _
  · rintro (_ | _) <;> rfl

theorem decoratorName?_eq_some {marker : String} {d : Expr} : d.decoratorName? = some marker ↔ IsMarker marker d := by
  constructor
  · intro h
    cases d with
    | call line e args hasKeywords => exact .called line args hasKeywords (lastName?_eq_some.mp h)
    | _ => exact .plain (lastName?_eq_some.mp h)
  · rintro (⟨h⟩ | ⟨line, args, hasKeywords, h⟩)
    · cases h <;> rfl
    · exact lastName?_eq_some.mpr h

instance (marker : String) (d : Expr) : Decidable (IsMarker marker d) := decidable_of_iff _ decoratorName?_eq_some

/-- The arguments without names that a decorator is called with; none if it is not called. -/
def givenTo : Expr → List Expr
  | .call _ _ args _ => args
  | _ => []

/-! ## Entities -/

/-- An entity tells what its class declares with the marker. -/
structure Describes (marker : String) (c : ClassDef) (e : Entity) : Prop where
  typeName : e.typeName = c.name
  line : e.line = some c.line
  markerCount : e.markerCount = c.decorators.countP fun d => IsMarker marker d
  /-- The fields are those of the first marker. What is no text is empty, and is noted as malformed. -/
  fields : ∃ before first after, c.decorators = before ++ first :: after ∧ IsMarker marker first ∧
    (∀ d ∈ before, ¬ IsMarker marker d) ∧ e.fields = (givenTo first).map (fun arg => arg.text?.getD "") ∧
    ∀ i : Int, i ∈ e.malformed ↔ ∃ k : Nat, i = k ∧ ∃ arg, (givenTo first)[k]? = some arg ∧ arg.text? = none

theorem mem_missingFrom {values : List (Option String)} {first i : Nat} :
    i ∈ missingFrom first values ↔ ∃ k, i = first + k ∧ values[k]? = some none := by
  induction values generalizing first with
  | nil => simp [missingFrom]
  | cons v values ih =>
    have next : i ∈ missingFrom (first + 1) values ↔ ∃ k, i = first + (k + 1) ∧ (v :: values)[k + 1]? = some none := by
      rw [ih]
      simp only [List.getElem?_cons_succ, Nat.add_assoc, Nat.add_comm 1]
    have split : (∃ k, i = first + k ∧ (v :: values)[k]? = some none) ↔
        (i = first ∧ v = none) ∨ ∃ k, i = first + (k + 1) ∧ (v :: values)[k + 1]? = some none := by
      constructor
      · rintro ⟨_ | k, hi, hk⟩
        · exact Or.inl ⟨hi, by simpa using hk⟩
        · exact Or.inr ⟨k, hi, hk⟩
      · rintro (⟨rfl, rfl⟩ | ⟨k, hi, hk⟩)
        · exact ⟨0, rfl, rfl⟩
        · exact ⟨k + 1, hi, hk⟩
    rw [split, ← next]
    cases v <;> simp [missingFrom]

theorem markerArguments_eq (d : Expr) : d.markerArguments = (givenTo d).map Expr.text? := by
  cases d <;> rfl

theorem describes_entityOf {marker : String} {origin : Origin} {c : ClassDef} {first : Expr} {others : List Expr}
    (h : c.markers marker = first :: others) : Describes marker c (entityOf origin c first (others.length + 1)) := by
  have hm : c.decorators.filter (fun d => IsMarker marker d) = first :: others := by
    rw [← h, ClassDef.markers]
    refine List.filter_congr fun d _ => ?_
    simp only [← decoratorName?_eq_some, Bool.beq_eq_decide_eq]
  refine ⟨rfl, rfl, ?_, ?_⟩
  · rw [List.countP_eq_length_filter, hm]
    rfl
  · obtain ⟨before, after, hsplit, hbefore, hfirst, -⟩ := List.filter_eq_cons_iff.mp hm
    refine ⟨before, first, after, hsplit, by simpa using hfirst, by simpa using hbefore, ?_, fun i => ?_⟩
    · simp [entityOf, fieldNames, markerArguments_eq]
    · simp only [entityOf, missingPositions, List.mem_map, mem_missingFrom, Nat.zero_add, markerArguments_eq,
        List.getElem?_map, Option.map_eq_some_iff]
      constructor
      · rintro ⟨n, ⟨k, rfl, hk⟩, rfl⟩
        exact ⟨n, rfl, hk⟩
      · rintro ⟨k, rfl, hk⟩
        exact ⟨k, ⟨k, rfl, hk⟩, rfl⟩

/-! ## Scans -/

variable {source marker : String} {origin : Origin}

/-- A class is found if it has a marker, and then it is described. -/
theorem finding?_spec (marker : String) (origin : Origin) (c : ClassDef) :
    (∃ d ∈ c.decorators, IsMarker marker d) ∧ (∃ f, finding? marker origin c = some f ∧ Describes marker c f.entity) ∨
      (∀ d ∈ c.decorators, ¬ IsMarker marker d) ∧ finding? marker origin c = none := by
  unfold finding?
  cases h : c.markers marker with
  | nil =>
    refine Or.inr ⟨fun d hd hm => ?_, rfl⟩
    have := List.filter_eq_nil_iff.mp h d hd
    exact this (by simpa using decoratorName?_eq_some.mpr hm)
  | cons first others =>
    have hmem : first ∈ c.markers marker := h ▸ List.mem_cons_self
    obtain ⟨hd, hm⟩ := List.mem_filter.mp hmem
    exact Or.inl ⟨⟨first, hd, decoratorName?_eq_some.mp (by simpa using hm)⟩, _, rfl, describes_entityOf h⟩

/-- What holds of each class that is found and its entity holds of all of them, one by one. -/
theorem forall₂_findings {R : ClassDef → Entity → Prop} (hR : ∀ c f, finding? marker origin c = some f → R c f.entity)
    (cs : List ClassDef) :
    List.Forall₂ R (cs.filter fun c => ∃ d ∈ c.decorators, IsMarker marker d)
      ((cs.filterMap (finding? marker origin)).map (·.entity)) := by
  induction cs with
  | nil => exact .nil
  | cons c cs ih =>
    rcases finding?_spec marker origin c with ⟨hm, f, hf, -⟩ | ⟨hn, hf⟩
    · rw [List.filter_cons_of_pos (by simpa using hm), List.filterMap_cons_some hf]
      exact .cons (hR c f hf) ih
    · rw [List.filter_cons_of_neg (by simpa using hn), List.filterMap_cons_none hf]
      exact ih

theorem describes_of_finding? {c : ClassDef} {f : Finding} (h : finding? marker origin c = some f) :
    Describes marker c f.entity := by
  rcases finding?_spec marker origin c with ⟨-, f', hf, hd⟩ | ⟨-, hf⟩
  · obtain rfl := Option.some.inj (h.symm.trans hf)
    exact hd
  · rw [h] at hf
    cases hf

/-- A source that is read is scanned class by class. -/
theorem scan_of_read (hn : '\x00' ∉ source.toList) {body : List Stmt} (hr : read? source = some body) :
    scan source marker origin = .ok ((Stmt.classesOf body).filterMap (finding? marker origin)) := by
  simp [scan, hn, hr]

/-- A scan finds the marked classes of a source, each one once and in the order of their `class` keywords. -/
theorem scan_marked (hn : '\x00' ∉ source.toList) {body : List Stmt} (hr : read? source = some body) (marker : String)
    (origin : Origin) :
    ∃ ts found, Source.Lexer.tokens? source.toList = some ts ∧ headsOf body = classHeads ts ∧
      scan source marker origin = .ok found ∧
      List.Forall₂ (Describes marker) ((Stmt.classesOf body).filter fun c => ∃ d ∈ c.decorators, IsMarker marker d)
        (found.map (·.entity)) := by
  obtain ⟨ts, hts, hheads⟩ := read?_classes hr
  exact ⟨ts, _, hts, hheads, scan_of_read hn hr, forall₂_findings (fun _ _ => describes_of_finding?) _⟩

/-- A class that an attribute marks, inside an unmarked class in a conditional statement. -/
def lineSource : String :=
  "if x:\n    class Order:\n        @queries.query_fields('title', 3)\n        class Line: pass\n"

def lineBody : List Stmt :=
  [.block [.classDef "Order" 2 [] [.classDef "Line" 4
    [.call 3 (.attribute (.name "queries") "query_fields") [.text "title", .constant] false] [.other]]]]

theorem scan_marked_line :
    '\x00' ∉ lineSource.toList ∧ read? lineSource = some lineBody ∧
      ∃ ts found, Source.Lexer.tokens? lineSource.toList = some ts ∧ headsOf lineBody = classHeads ts ∧
        scan lineSource "query_fields" {} = .ok found ∧
        List.Forall₂ (Describes "query_fields")
          ((Stmt.classesOf lineBody).filter fun c => ∃ d ∈ c.decorators, IsMarker "query_fields" d)
          (found.map (·.entity)) := by
  have hn : '\x00' ∉ lineSource.toList := by decide
  have hr : read? lineSource = some lineBody := rfl
  exact ⟨hn, hr, scan_marked hn hr _ _⟩

end CrudQueries.Discovery
