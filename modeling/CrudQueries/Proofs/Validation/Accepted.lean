/-
  CrudQueries.Proofs.Validation.Accepted — what holds when validation has no errors.

  A check whose diagnostics hold no error has found its text to be of the right form. For a whole
  validation (`accepted_of_full`) that is: the settings are names and parts of names
  (`AcceptedSettings`), and every type has a name, field names where its positions are well formed,
  and for Python a table that fits between quotes (`AcceptedEntity`). One newline at the end of a
  name passes, and nothing is said about packages, modules and malformed positions.
-/

import CrudQueries.Validation.Full

namespace CrudQueries.Validation

open CrudQueries.Text

/-- What validation establishes about settings. -/
structure AcceptedSettings (s : Settings) : Prop where
  namespaceName : isDottedIdentifier s.namespaceName = true
  markerName : isIdentifier s.markerName = true
  moduleSuffix : isNameSuffix s.moduleSuffix = true
  mixinSuffix : isNameSuffix s.mixinSuffix = true

/-- What validation establishes about a type. -/
structure AcceptedEntity (s : Settings) (e : Entity) : Prop where
  typeName : isIdentifier e.typeName = true
  notKeyword : Source.isKeyword e.typeName = false
  markedOnce : e.markerCount ≤ 1
  coerced : e.fields ≠ [] → e.malformed ≠ [] → s.coerceMalformed = true
  fields : ∀ f ∈ wellFormedFields e, isIdentifier f = true ∧ isManaged f = false
  table : e.fields ≠ [] → s.language = .python → (e.table.getD "").isEmpty = false
  safeTable : e.fields ≠ [] → (e.table.getD "").toList.any isUnsafeInTable = false

/-! ## Diagnostics -/

theorem hasErrors_append (ds es : Diagnostics) :
    Diagnostics.hasErrors (ds ++ es) = (Diagnostics.hasErrors ds || Diagnostics.hasErrors es) := by
  simp [Diagnostics.hasErrors]

theorem hasErrors_cons (d : Diagnostic) (ds : Diagnostics) :
    Diagnostics.hasErrors (d :: ds) = (d.isError || Diagnostics.hasErrors ds) := rfl

/-- A check that reports an error unless `b` holds. -/
theorem of_no_error {b : Bool} {d : Diagnostic} (hd : d.isError = true)
    (h : Diagnostics.hasErrors (if b then [] else [d]) = false) : b = true := by
  cases b with
  | true => rfl
  | false => simp [hasErrors_cons, hd] at h

/-! ## Each check -/

theorem accepted_settings {s : Settings} (h : Diagnostics.hasErrors (checkSettings s) = false) :
    AcceptedSettings s := by
  simp only [checkSettings, hasErrors_append, Bool.or_eq_false_iff] at h
  obtain ⟨⟨⟨⟨hn, hm⟩, ho⟩, hx⟩, -⟩ := h
  exact ⟨of_no_error rfl hn, of_no_error rfl hm, of_no_error rfl ho, of_no_error rfl hx⟩

theorem accepted_typeName {index : Nat} {e : Entity} {s : Settings}
    (h : Diagnostics.hasErrors (checkTypeName index e s) = false) :
    isIdentifier e.typeName = true ∧ Source.isKeyword e.typeName = false ∧ e.markerCount ≤ 1 := by
  simp only [checkTypeName, hasErrors_append, Bool.or_eq_false_iff] at h
  obtain ⟨hname, hmarkers⟩ := h
  cases hi : isIdentifier e.typeName with
  | false => simp [hi, hasErrors_cons, Diagnostic.isError] at hname
  | true =>
    cases hk : Source.isKeyword e.typeName with
    | true => simp [hi, hk, hasErrors_cons, Diagnostic.isError] at hname
    | false =>
      refine ⟨rfl, rfl, ?_⟩
      by_cases hm : e.markerCount > 1
      · simp [hm, hasErrors_cons, Diagnostic.isError] at hmarkers
      · omega

theorem accepted_fieldName (index : Nat) (e : Entity) {name : String}
    (h : Diagnostics.hasErrors (checkFieldName index e name) = false) :
    isIdentifier name = true ∧ isManaged name = false := by
  cases hi : isIdentifier name with
  | false => simp [checkFieldName, hi, hasErrors_cons, Diagnostic.isError] at h
  | true =>
    cases hm : isManaged name with
    | true => simp [checkFieldName, hi, hm, hasErrors_cons, Diagnostic.isError] at h
    | false => exact ⟨rfl, rfl⟩

theorem mem_malformedPositions {e : Entity} {p : Int} : p ∈ malformedPositions e ↔ p ∈ e.malformed := by
  simp [malformedPositions]

theorem accepted_fields {index : Nat} {e : Entity} {s : Settings} (hf : e.fields ≠ [])
    (h : Diagnostics.hasErrors (checkFields index e s) = false) :
    (e.malformed ≠ [] → s.coerceMalformed = true) ∧
      ∀ f ∈ wellFormedFields e, isIdentifier f = true ∧ isManaged f = false := by
  simp only [checkFields, List.isEmpty_iff, hf, if_false, hasErrors_append, Bool.or_eq_false_iff] at h
  obtain ⟨⟨hp, -⟩, hn⟩ := h
  constructor
  · intro hm
    obtain ⟨p, hmem⟩ := List.exists_mem_of_ne_nil _ hm
    have := List.any_eq_false.mp hp _ (List.mem_map_of_mem (mem_malformedPositions.mpr hmem))
    cases hc : s.coerceMalformed with
    | true => rfl
    | false => simp [malformedField, hc, Diagnostic.isError] at this
  · intro f hmem
    refine accepted_fieldName index e ?_
    rw [Diagnostics.hasErrors, List.any_flatMap] at hn
    simpa [Diagnostics.hasErrors] using List.any_eq_false.mp hn f hmem

theorem accepted_table {index : Nat} {e : Entity} {s : Settings} (hf : e.fields ≠ [])
    (h : Diagnostics.hasErrors (checkTable index e s) = false) :
    (s.language = .python → (e.table.getD "").isEmpty = false) ∧
      (e.table.getD "").toList.any isUnsafeInTable = false := by
  simp only [checkTable, List.isEmpty_iff, hf, if_false] at h
  cases ht : (e.table.getD "").isEmpty with
  | true =>
    have hempty : e.table.getD "" = "" := by simpa using ht
    refine ⟨fun hl => ?_, by simp [hempty]⟩
    simp [ht, hl, hasErrors_cons, Diagnostic.isError] at h
  | false =>
    refine ⟨fun _ => rfl, ?_⟩
    cases hu : (e.table.getD "").toList.any isUnsafeInTable with
    | false => rfl
    | true => simp [ht, hu, hasErrors_cons, Diagnostic.isError] at h

/-! ## Everything -/

theorem wellFormedFields_nil {e : Entity} (h : e.fields = []) : wellFormedFields e = [] := by
  simp [wellFormedFields, h]

theorem accepted_entity (index : Nat) {e : Entity} {s : Settings}
    (h : Diagnostics.hasErrors (checkEntity index e s) = false) : AcceptedEntity s e := by
  simp only [checkEntity, hasErrors_append, Bool.or_eq_false_iff] at h
  obtain ⟨⟨hn, hf⟩, ht⟩ := h
  obtain ⟨hi, hk, hm⟩ := accepted_typeName hn
  refine ⟨hi, hk, hm, fun hne => (accepted_fields hne hf).1, fun f hmem => ?_,
    fun hne => (accepted_table hne ht).1, fun hne => (accepted_table hne ht).2⟩
  by_cases hne : e.fields = []
  · rw [wellFormedFields_nil hne] at hmem; cases hmem
  · exact (accepted_fields hne hf).2 f hmem

/-- What a validation without errors says. -/
theorem accepted_of_full {entities : List Entity} {s : Settings} (h : Diagnostics.hasErrors (full entities s) = false) :
    AcceptedSettings s ∧ ∀ e ∈ entities, AcceptedEntity s e := by
  simp only [full, hasErrors_append, Bool.or_eq_false_iff] at h
  obtain ⟨⟨hs, -⟩, he⟩ := h
  refine ⟨accepted_settings hs, fun e hmem => ?_⟩
  obtain ⟨i, hi, rfl⟩ := List.mem_iff_getElem.mp hmem
  have hz : (entities[i], i) ∈ entities.zipIdx := List.mem_zipIdx_iff_getElem?.mpr (by simp [hi])
  rw [Diagnostics.hasErrors, List.any_flatMap] at he
  exact accepted_entity i (by simpa [Diagnostics.hasErrors] using List.any_eq_false.mp he _ hz)

/-- Without errors there is none about any one type. -/
theorem not_condemned {ds : Diagnostics} (h : ds.hasErrors = false) (index : Nat) : ds.condemn index = false := by
  refine List.any_eq_false.mpr fun d hd => ?_
  have := List.any_eq_false.mp h d hd
  simp [Diagnostic.condemns, this]

end CrudQueries.Validation
