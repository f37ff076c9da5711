/-
  CrudQueries.Proofs.Record.Checked — when a check succeeds.

  A combination of checks succeeds exactly if each of them does, and then with the results put
  together: for a function and its argument (`seq_eq_ok`), for the members of a sequence
  (`members_eq_ok`), for the fields of a record (`required_eq_ok`, `optional_eq_ok`) and for a whole
  record, which must give nothing else (`closed_eq_ok`).
-/

import CrudQueries.Record.Check
import Mathlib.Data.List.Forall2

namespace CrudQueries.Record

open CrudQueries.Data (Value)

variable {α β : Type}

namespace Checked

@[simp] theorem map_eq_ok {f : α → β} {c : Checked α} {b : β} : c.map f = .ok b ↔ ∃ a, c = .ok a ∧ f a = b := by
  cases c <;> simp [map]

@[simp] theorem fmap_eq_ok {f : α → β} {c : Checked α} {b : β} : f <$> c = .ok b ↔ ∃ a, c = .ok a ∧ f a = b :=
  map_eq_ok

@[simp] theorem seq_eq_ok {f : Checked (α → β)} {c : Checked α} {b : β} :
    f.seq c = .ok b ↔ ∃ g, f = .ok g ∧ ∃ a, c = .ok a ∧ g a = b := by
  cases f <;> cases c <;> simp [seq]

@[simp] theorem app_eq_ok {f : Checked (α → β)} {c : Checked α} {b : β} :
    f <*> c = .ok b ↔ ∃ g, f = .ok g ∧ ∃ a, c = .ok a ∧ g a = b :=
  seq_eq_ok

@[simp] theorem inside_eq_ok {step : Step} {c : Checked α} {a : α} : c.inside step = .ok a ↔ c = .ok a := by
  cases c <;> simp [inside]

@[simp] theorem toExcept_eq_ok {model : String} {c : Checked α} {a : α} : c.toExcept model = .ok a ↔ c = .ok a := by
  cases c <;> simp [toExcept]

@[simp] theorem flaw_ne_ok {f : Flaw} {a : α} : (flaw f : Checked α) ≠ .ok a := nofun

theorem all_eq_ok {cs : List (Checked α)} {as : List α} : all cs = .ok as ↔ cs.Forall₂ (fun c a => c = .ok a) as := by
  induction cs generalizing as with
  | nil => simp [all, eq_comm]
  | cons c cs ih =>
    simp only [all, seq_eq_ok, map_eq_ok, ih]
    constructor
    · rintro ⟨-, ⟨a, hc, rfl⟩, as, hcs, rfl⟩
      exact .cons hc hcs
    · rintro (_ | ⟨hc, hcs⟩)
      exact ⟨_, ⟨_, hc, rfl⟩, _, hcs, rfl⟩

end Checked

namespace Check

/-- The members of a sequence are accepted one by one. -/
theorem members_eq_ok {check : Check α} {items : List Value} {as : List α} :
    members check items = .ok as ↔ items.Forall₂ (fun v a => check v = .ok a) as := by
  rw [members, Checked.all_eq_ok, List.forall₂_map_left_iff]
  simp only [Checked.inside_eq_ok]
  rw [← List.forall₂_map_left_iff (f := Prod.fst) (R := fun v a => check v = .ok a), List.zipIdx_map_fst]

end Check

/-! ## Fields -/

variable {field : FieldName} {check : Check α} {default a : α} {entries : List (Value × Value)}

/-- The value that entries give a field. -/
def FieldName.value? (field : FieldName) (entries : List (Value × Value)) : Option Value :=
  (field.find? entries).map (·.2)

theorem FieldName.value?_eq : field.value? entries =
    (Value.field? entries field.label).or (Value.field? entries field.name) := by
  unfold FieldName.value? FieldName.find?
  cases Value.field? entries field.label with
  | some v => rfl
  | none => simp [Function.comp_def]

@[simp] theorem FieldName.value?_of (name : String) : (FieldName.of name).value? entries = Value.field? entries name := by
  rw [FieldName.value?_eq]
  exact Option.or_self

theorem required_eq_ok : required field check entries = .ok a ↔ ∃ v, field.value? entries = some v ∧ check v = .ok a := by
  unfold required FieldName.value?
  cases field.find? entries with
  | none => simp
  | some found => rw [Checked.inside_eq_ok]; simp

theorem optional_eq_ok : optional field default check entries = .ok a ↔
    match field.value? entries with
    | some v => check v = .ok a
    | none => a = default := by
  unfold optional FieldName.value?
  cases field.find? entries with
  | none => simp [eq_comm]
  | some found => exact Checked.inside_eq_ok

/-- A key gives a field if the field is found under it. -/
def Gives (fields : List FieldName) (entries : List (Value × Value)) (key : Value) : Prop :=
  ∃ field ∈ fields, ∃ name v, field.find? entries = some (name, v) ∧ key = .text name

theorem strayKey?_eq_none {used : List String} {key : Value} : strayKey? used key = none ↔ ∃ s ∈ used, key = .text s := by
  unfold strayKey?
  split
  · simp
  · rename_i hne
    simp only [reduceCtorEq, false_iff, not_exists, not_and]
    exact fun s _ hs => hne s hs

/-- A record is accepted if its fields are and each entry gives one of them. -/
theorem closed_eq_ok {fields : List FieldName} {record : List (Value × Value) → Checked α} :
    closed fields record entries = .ok a ↔ record entries = .ok a ∧ ∀ e ∈ entries, Gives fields entries e.1 := by
  have hstray : (entries.filterMap fun e =>
        strayKey? (fields.filterMap fun field => (field.find? entries).map (·.1)) e.1) = [] ↔
      ∀ e ∈ entries, Gives fields entries e.1 := by
    rw [List.filterMap_eq_nil_iff]
    refine forall₂_congr fun e _ => ?_
    rw [strayKey?_eq_none]
    constructor
    · rintro ⟨s, hs, he⟩
      obtain ⟨field, hf, hfind⟩ := List.mem_filterMap.mp hs
      obtain ⟨⟨name, v⟩, hv, rfl⟩ := Option.map_eq_some_iff.mp hfind
      exact ⟨field, hf, name, v, hv, he⟩
    · rintro ⟨field, hf, name, v, hv, he⟩
      exact ⟨name, List.mem_filterMap.mpr ⟨field, hf, by rw [hv]; rfl⟩, he⟩
  unfold closed
  rw [← hstray]
  simp only [List.isEmpty_iff, Checked.seq_eq_ok, Checked.map_eq_ok]
  split
  · rename_i hnil
    simp [hnil]
  · rename_i hcons
    simp [hcons]

end CrudQueries.Record
