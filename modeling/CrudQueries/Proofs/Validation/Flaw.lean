/-
  CrudQueries.Proofs.Validation.Flaw — what validation decides.

  `Flaw` lists what may be wrong with a type taken alone, `TakenPath` what may be wrong with the path
  of its fragment among all paths. The checks find exactly these: a type's own checks have an error
  exactly if it has a flaw (`hasErrors_checkEntity`), and the checks of the paths have one about a type
  exactly if its path is taken (`hasErrorAt_checkPaths`), although they keep the first type of each path
  only and none that has the marker's. Together (`full_decides`): the types with flaws or taken paths are
  at the invalid positions, and an error without a position is one of the settings.
-/

import CrudQueries.Proofs.Text.Words
import CrudQueries.Proofs.Validation.Accepted
import CrudQueries.Proofs.Validation.Position
import Mathlib.Data.List.Nodup

namespace CrudQueries

/-- At position `j` of the field list there is `name`, and the position is not malformed. -/
def Entity.WellFormedAt (e : Entity) (j : Nat) (name : String) : Prop :=
  e.fields[j]? = some name ∧ (j : Int) ∉ e.malformed

theorem Entity.WellFormedAt.fields_ne {e : Entity} {j : Nat} {name : String} (h : e.WellFormedAt j name) :
    e.fields ≠ [] := by
  intro hf
  simp [Entity.WellFormedAt, hf] at h

namespace Validation

open CrudQueries.Data (Value)
open CrudQueries.Text

variable {s : Settings} {e : Entity} {es : List Entity} {i index : Nat}

/-- What may be wrong with a type. -/
inductive Flaw (s : Settings) (e : Entity) : Prop where
  | typeName (h : isIdentifier e.typeName = false)
  | keyword (h : Source.isKeyword e.typeName = true)
  | marks (h : 1 < e.markerCount)
  | malformed (hf : e.fields ≠ []) (hm : e.malformed ≠ []) (hc : s.coerceMalformed = false)
  | repeatedField (j k : Nat) (name : String) (hlt : j < k) (hj : e.WellFormedAt j name) (hk : e.WellFormedAt k name)
  | fieldName (j : Nat) (name : String) (hj : e.WellFormedAt j name) (h : isIdentifier name = false)
  | managedField (j : Nat) (name : String) (hj : e.WellFormedAt j name) (h : Text.lower name ∈ Query.managedColumns)
  | noTable (hf : e.fields ≠ []) (hl : s.language = .python) (ht : e.table = none ∨ e.table = some "")
  | unsafeTable (table : String) (c : Char) (hf : e.fields ≠ []) (ht : e.table = some table) (hc : c ∈ table.toList)
      (h : isUnsafeInTable c = true)

/-- What may be wrong with the path of a type's fragment: the marker has it, or one of the types before it. -/
inductive TakenPath (s : Settings) (before : List Entity) (e : Entity) : Prop where
  | byMarker (hf : e.fields ≠ []) (h : pathKey (Fragment.path s e) = pathKey (Fragment.markerPath s))
  | byType (first : Entity) (hf : e.fields ≠ []) (hmem : first ∈ before) (hfirst : first.fields ≠ [])
      (h : pathKey (Fragment.path s e) = pathKey (Fragment.path s first))

/-! ## Field lists -/

theorem mem_wellFormedFields {name : String} : name ∈ wellFormedFields e ↔ ∃ j, e.WellFormedAt j name := by
  simp [wellFormedFields, Entity.WellFormedAt, List.mem_zipIdx_iff_getElem?]

theorem nodup_wellFormedFields :
    (wellFormedFields e).Nodup ↔ ∀ j k name, j < k → e.WellFormedAt j name → ¬ e.WellFormedAt k name := by
  rw [wellFormedFields, List.Nodup, List.pairwise_map, List.pairwise_filter, List.pairwise_iff_getElem]
  constructor
  · rintro h j k name hlt ⟨hj, hmj⟩ ⟨hk, hmk⟩
    obtain ⟨hjl, rfl⟩ := List.getElem?_eq_some_iff.mp hj
    obtain ⟨hkl, hkj⟩ := List.getElem?_eq_some_iff.mp hk
    have := h j k (by simpa using hjl) (by simpa using hkl) hlt (by simpa using hmj) (by simpa using hmk)
    exact this (by simpa using hkj.symm)
  · intro h j k hjl hkl hlt hmj hmk heq
    simp only [List.length_zipIdx] at hjl hkl
    simp only [List.getElem_zipIdx, Nat.zero_add, Bool.not_eq_true', List.contains_eq_mem,
      decide_eq_false_iff_not] at hmj hmk heq
    exact h j k e.fields[j] hlt ⟨List.getElem?_eq_getElem hjl, hmj⟩
      ⟨by rw [List.getElem?_eq_getElem hkl, heq], hmk⟩

theorem repeated_eq_nil {names : List String} : repeated names = [] ↔ names.Nodup := by
  have hcount : repeated names = [] ↔ ∀ name ∈ names, names.count name ≤ 1 := by
    simp [repeated, List.filter_eq_nil_iff]
  rw [hcount, List.nodup_iff_count_le_one]
  refine ⟨fun h name => ?_, fun h name _ => h name⟩
  by_cases hm : name ∈ names
  · exact h name hm
  · rw [List.count_eq_zero.mpr hm]; exact Nat.zero_le 1

/-! ## The case of letters -/

/-- On names the letters of ASCII are the only ones that have a lower case. -/
theorem inLowerCase_identifier {name : String} (h : isIdentifier name = true) : inLowerCase name = Text.lower name := by
  rw [inLowerCase, Text.lower, CaseMap.apply]
  congr 1
  have hm : ∀ c ∈ name.toList, lowerMap.char c = [lowerLetter c] := fun c hc => lowerMap_char (mem_identifier h hc)
  rw [List.map_eq_flatMap]
  exact (List.flatMap_congr hm).symm

/-! ## The checks of one type -/

theorem hasErrors_iff {ds : Diagnostics} : ds.hasErrors = true ↔ ∃ d ∈ ds, d.isError = true := by
  simp [Diagnostics.hasErrors]

theorem hasErrors_checkTypeName :
    (checkTypeName index e s).hasErrors = true ↔
      isIdentifier e.typeName = false ∨ Source.isKeyword e.typeName = true ∨ 1 < e.markerCount := by
  rw [checkTypeName, hasErrors_append]
  cases hi : isIdentifier e.typeName <;> cases hk : Source.isKeyword e.typeName <;> by_cases hm : 1 < e.markerCount <;>
    simp [hm, Diagnostics.hasErrors, Diagnostic.isError]

theorem hasErrors_checkFieldName {name : String} :
    (checkFieldName index e name).hasErrors = true ↔
      isIdentifier name = false ∨ Text.lower name ∈ Query.managedColumns := by
  cases hi : isIdentifier name with
  | false => simp [checkFieldName, hi, Diagnostics.hasErrors, Diagnostic.isError]
  | true =>
    have hm : isManaged name = true ↔ Text.lower name ∈ Query.managedColumns := by
      rw [isManaged, inLowerCase_identifier hi, List.contains_iff_mem]
    rw [← hm, checkFieldName, hi]
    cases isManaged name <;> simp [Diagnostics.hasErrors, Diagnostic.isError]

theorem isError_malformedField (position : Int) :
    (malformedField index e s position).isError = !s.coerceMalformed := by
  rw [malformedField]
  split <;> simp [*, Diagnostic.isError]

/-- Findings that are errors, one for each name that is there more than once. -/
theorem hasErrors_map_repeated {finding : String × Nat → Diagnostic} (herr : ∀ r, (finding r).isError = true)
    (names : List String) : Diagnostics.hasErrors ((repeated names).map finding) = true ↔ ¬ names.Nodup := by
  rw [hasErrors_iff, ← repeated_eq_nil]
  constructor
  · rintro ⟨d, hd, -⟩
    obtain ⟨r, hr, -⟩ := List.mem_map.mp hd
    exact List.ne_nil_of_mem hr
  · intro hne
    obtain ⟨r, hr⟩ := List.exists_mem_of_ne_nil _ hne
    exact ⟨_, List.mem_map_of_mem hr, herr r⟩

theorem hasErrors_checkFields (hf : e.fields ≠ []) :
    (checkFields index e s).hasErrors = true ↔
      (e.malformed ≠ [] ∧ s.coerceMalformed = false) ∨ ¬ (wellFormedFields e).Nodup ∨
        ∃ name ∈ wellFormedFields e, isIdentifier name = false ∨ Text.lower name ∈ Query.managedColumns := by
  have hmalformed : Diagnostics.hasErrors ((malformedPositions e).map (malformedField index e s)) = true ↔
      e.malformed ≠ [] ∧ s.coerceMalformed = false := by
    rw [hasErrors_iff]
    constructor
    · rintro ⟨d, hd, herr⟩
      obtain ⟨p, hp, rfl⟩ := List.mem_map.mp hd
      exact ⟨List.ne_nil_of_mem (mem_malformedPositions.mp hp), by simpa [isError_malformedField] using herr⟩
    · rintro ⟨hm, hc⟩
      obtain ⟨p, hp⟩ := List.exists_mem_of_ne_nil _ hm
      exact ⟨_, List.mem_map_of_mem (mem_malformedPositions.mpr hp), by rw [isError_malformedField, hc]; rfl⟩
  have hname : Diagnostics.hasErrors ((wellFormedFields e).flatMap (checkFieldName index e)) = true ↔
      ∃ name ∈ wellFormedFields e, isIdentifier name = false ∨ Text.lower name ∈ Query.managedColumns := by
    rw [Diagnostics.hasErrors, List.any_flatMap, List.any_eq_true]
    exact exists_congr fun name => and_congr_right fun _ => hasErrors_checkFieldName
  rw [checkFields, if_neg (by simpa using hf), hasErrors_append, hasErrors_append, Bool.or_eq_true, Bool.or_eq_true,
    hmalformed, hasErrors_map_repeated fun _ => rfl, hname, or_assoc]

theorem hasErrors_checkTable (hf : e.fields ≠ []) :
    (checkTable index e s).hasErrors = true ↔
      (e.table.getD "" = "" ∧ s.language = .python) ∨ ∃ c ∈ (e.table.getD "").toList, isUnsafeInTable c = true := by
  rw [checkTable, if_neg (by simpa using hf)]
  dsimp only
  by_cases ht : e.table.getD "" = ""
  · rw [ht]
    cases s.language <;> simp [Diagnostics.hasErrors, Diagnostic.isError]
  · rw [if_neg (by simpa using ht)]
    cases hu : (e.table.getD "").toList.any isUnsafeInTable with
    | true => simp [ht, Diagnostics.hasErrors, Diagnostic.isError, List.any_eq_true.mp hu]
    | false =>
      have : ¬ ∃ c ∈ (e.table.getD "").toList, isUnsafeInTable c = true := by simpa using hu
      simp only [ht, this]
      cases isDottedIdentifier (e.table.getD "") <;> simp [Diagnostics.hasErrors, Diagnostic.isError]

/-- The checks find every flaw. -/
theorem Flaw.hasErrors (index : Nat) (h : Flaw s e) : (checkEntity index e s).hasErrors = true := by
  rw [checkEntity, hasErrors_append, hasErrors_append, Bool.or_eq_true, Bool.or_eq_true]
  cases h with
  | typeName h => exact .inl (.inl (hasErrors_checkTypeName.mpr (.inl h)))
  | keyword h => exact .inl (.inl (hasErrors_checkTypeName.mpr (.inr (.inl h))))
  | marks h => exact .inl (.inl (hasErrors_checkTypeName.mpr (.inr (.inr h))))
  | malformed hf hm hc => exact .inl (.inr ((hasErrors_checkFields hf).mpr (.inl ⟨hm, hc⟩)))
  | repeatedField j k name hlt hj hk =>
    have hdup : ¬ (wellFormedFields e).Nodup := fun hn => nodup_wellFormedFields.mp hn j k name hlt hj hk
    exact .inl (.inr ((hasErrors_checkFields hj.fields_ne).mpr (.inr (.inl hdup))))
  | fieldName j name hj h =>
    have hmem := mem_wellFormedFields.mpr ⟨j, hj⟩
    exact .inl (.inr ((hasErrors_checkFields hj.fields_ne).mpr (.inr (.inr ⟨name, hmem, .inl h⟩))))
  | managedField j name hj h =>
    have hmem := mem_wellFormedFields.mpr ⟨j, hj⟩
    exact .inl (.inr ((hasErrors_checkFields hj.fields_ne).mpr (.inr (.inr ⟨name, hmem, .inr h⟩))))
  | noTable hf hl ht =>
    have hempty : e.table.getD "" = "" := by rcases ht with ht | ht <;> rw [ht] <;> rfl
    exact .inr ((hasErrors_checkTable hf).mpr (.inl ⟨hempty, hl⟩))
  | unsafeTable table c hf ht hc h =>
    exact .inr ((hasErrors_checkTable hf).mpr (.inr ⟨c, by rwa [ht], h⟩))

/-- A type's own checks have an error exactly if the type has a flaw. -/
theorem hasErrors_checkEntity : (checkEntity index e s).hasErrors = true ↔ Flaw s e := by
  refine ⟨fun h => ?_, Flaw.hasErrors index⟩
  rw [checkEntity, hasErrors_append, hasErrors_append, Bool.or_eq_true, Bool.or_eq_true,
    hasErrors_checkTypeName] at h
  rcases h with ((h | h | h) | h) | h
  · exact .typeName h
  · exact .keyword h
  · exact .marks h
  · have hf : e.fields ≠ [] := by
      intro hf
      simp [checkFields, hf, Diagnostics.hasErrors, Diagnostic.isError] at h
    rw [hasErrors_checkFields hf, nodup_wellFormedFields] at h
    push Not at h
    rcases h with ⟨hm, hc⟩ | ⟨j, k, name, hlt, hj, hk⟩ | ⟨name, hn, h⟩
    · exact .malformed hf hm hc
    · exact .repeatedField j k name hlt hj hk
    · obtain ⟨j, hj⟩ := mem_wellFormedFields.mp hn
      exact h.elim (.fieldName j name hj) (.managedField j name hj)
  · have hf : e.fields ≠ [] := by
      intro hf
      simp [checkTable, hf, Diagnostics.hasErrors] at h
    rw [hasErrors_checkTable hf] at h
    cases ht : e.table with
    | none =>
      rw [ht] at h
      rcases h with ⟨-, hl⟩ | ⟨c, hc, -⟩
      · exact .noTable hf hl (.inl ht)
      · cases hc
    | some table =>
      rw [ht] at h
      rcases h with ⟨hempty, hl⟩ | ⟨c, hc, hu⟩
      · exact .noTable hf hl (.inr (hempty ▸ ht))
      · exact .unsafeTable table c hf ht hc hu

/-! ## The paths -/

theorem Diagnostic.IsAbout.entityIndex?_eq {d : Diagnostic} (h : d.IsAbout index e) :
    d.entityIndex? = some (.int i) ↔ i = index := by
  rw [h.entityIndex?, Option.some.injEq, Value.int.injEq, Int.natCast_inj]
  exact eq_comm

theorem hasErrorAt_cons {d : Diagnostic} {ds : Diagnostics} (hd : d.isError = true) (ha : d.IsAbout index e) :
    Diagnostics.HasErrorAt (d :: ds) i ↔ i = index ∨ ds.HasErrorAt i := by
  simp only [Diagnostics.HasErrorAt, List.mem_cons, exists_eq_or_imp, hd, ha.entityIndex?_eq, true_and]

/-- At its turn a type has the path of the marker, or one seen so far. -/
def Meets (s : Settings) (seen : List (String × Entity)) (e : Entity) : Prop :=
  e.fields ≠ [] ∧ (pathKey (Fragment.path s e) = pathKey (Fragment.markerPath s) ∨
    (seen.lookup (pathKey (Fragment.path s e))).isSome)

/-- What one type's turn finds, and what has been seen after it. -/
theorem hasErrorAt_collisionsFrom_cons (s : Settings) (index : Nat) (seen : List (String × Entity)) (e : Entity)
    (rest : List Entity) :
    ∃ seen',
      (∀ key, (seen'.lookup key).isSome = true ↔ (seen.lookup key).isSome = true ∨
        (e.fields ≠ [] ∧ pathKey (Fragment.path s e) ≠ pathKey (Fragment.markerPath s) ∧
          key = pathKey (Fragment.path s e))) ∧
      ∀ i, (collisionsFrom s index seen (e :: rest)).HasErrorAt i ↔
        (i = index ∧ Meets s seen e) ∨ (collisionsFrom s (index + 1) seen' rest).HasErrorAt i := by
  by_cases hf : e.fields = []
  · -- A type without fields is passed over.
    refine ⟨seen, fun key => by simp [hf], fun i => ?_⟩
    simp [collisionsFrom, Meets, hf]
  by_cases hm : pathKey (Fragment.path s e) = pathKey (Fragment.markerPath s)
  · -- One with the path of the marker has its error, and is not recorded.
    refine ⟨seen, fun key => by simp [hm], fun i => ?_⟩
    rw [collisionsFrom, if_neg (by simpa using hf)]
    simp only [hm, beq_self_eq_true, if_true]
    rw [hasErrorAt_cons rfl ⟨_, rfl⟩]
    simp [Meets, hf, hm]
  cases hl : seen.lookup (pathKey (Fragment.path s e)) with
  | some first =>
    -- The first type of a path stays the one that is recorded.
    refine ⟨seen, fun key => ?_, fun i => ?_⟩
    · refine ⟨Or.inl, fun h => h.elim id ?_⟩
      rintro ⟨-, -, rfl⟩
      rw [hl]; rfl
    · rw [collisionsFrom, if_neg (by simpa using hf)]
      simp only [beq_iff_eq, hm, if_false, hl]
      rw [hasErrorAt_cons (isError_fragmentCollision _ _) (about_fragmentCollision _ _)]
      simp [Meets, hf, hl]
  | none =>
    refine ⟨(pathKey (Fragment.path s e), e) :: seen, fun key => ?_, fun i => ?_⟩
    · rw [List.lookup_cons]
      by_cases hk : key = pathKey (Fragment.path s e)
      · simp [hk, hf, hm]
      · simp only [beq_eq_false_iff_ne.mpr hk, hk, and_false, or_false]
    · rw [collisionsFrom, if_neg (by simpa using hf)]
      simp only [beq_iff_eq, hm, if_false, hl]
      simp [Meets, hm, hl]

/-- What has been seen after the turn of a type tells of later types what the type itself does. -/
theorem meets_or_takenPath_iff {seen seen' : List (String × Entity)} {first e : Entity} {before : List Entity}
    (hseen : ∀ key, (seen'.lookup key).isSome = true ↔ (seen.lookup key).isSome = true ∨
      (first.fields ≠ [] ∧ pathKey (Fragment.path s first) ≠ pathKey (Fragment.markerPath s) ∧
        key = pathKey (Fragment.path s first))) :
    (Meets s seen' e ∨ TakenPath s before e) ↔ (Meets s seen e ∨ TakenPath s (first :: before) e) := by
  constructor
  · rintro (⟨hf, hm | hs⟩ | h)
    · exact .inl ⟨hf, .inl hm⟩
    · rcases (hseen _).mp hs with hs | ⟨hfirst, -, heq⟩
      · exact .inl ⟨hf, .inr hs⟩
      · exact .inr (.byType first hf List.mem_cons_self hfirst heq)
    · cases h with
      | byMarker hf h => exact .inr (.byMarker hf h)
      | byType other hf hmem hother heq => exact .inr (.byType other hf (List.mem_cons_of_mem _ hmem) hother heq)
  · rintro (⟨hf, hm | hs⟩ | h)
    · exact .inl ⟨hf, .inl hm⟩
    · exact .inl ⟨hf, .inr ((hseen _).mpr (.inl hs))⟩
    · cases h with
      | byMarker hf h => exact .inr (.byMarker hf h)
      | byType other hf hmem hother heq =>
        rcases List.mem_cons.mp hmem with rfl | hmem
        -- An earlier type that has the marker's path itself is not recorded, but then this one has it too.
        · by_cases hm : pathKey (Fragment.path s other) = pathKey (Fragment.markerPath s)
          · exact .inr (.byMarker hf (heq.trans hm))
          · exact .inl ⟨hf, .inr ((hseen _).mpr (.inr ⟨hother, hm, heq⟩))⟩
        · exact .inr (.byType other hf hmem hother heq)

/-- The turns together: a type is at fault for the marker's path, a path seen at the start, or that of a type
  before it. -/
theorem hasErrorAt_collisionsFrom (index : Nat) (seen : List (String × Entity)) (es : List Entity) :
    (collisionsFrom s index seen es).HasErrorAt i ↔
      ∃ k e, i = index + k ∧ es[k]? = some e ∧ (Meets s seen e ∨ TakenPath s (es.take k) e) := by
  induction es generalizing index seen with
  | nil => simp [collisionsFrom, Diagnostics.HasErrorAt]
  | cons first rest ih =>
    obtain ⟨seen', hseen, hturn⟩ := hasErrorAt_collisionsFrom_cons s index seen first rest
    rw [hturn, ih]
    constructor
    · rintro (⟨rfl, hm⟩ | ⟨k, e, rfl, hk, h⟩)
      · exact ⟨0, first, rfl, rfl, .inl hm⟩
      · refine ⟨k + 1, e, by omega, hk, ?_⟩
        rwa [List.take_succ_cons, ← meets_or_takenPath_iff hseen]
    · rintro ⟨k, e, rfl, hk, h⟩
      cases k with
      | zero =>
        obtain rfl : first = e := by simpa using hk
        refine .inl ⟨rfl, h.elim id fun h => ?_⟩
        cases h with
        | byMarker hf h => exact ⟨hf, .inl h⟩
        | byType other hf hmem => cases hmem
      | succ k =>
        refine .inr ⟨k, e, by omega, hk, ?_⟩
        rwa [List.take_succ_cons, ← meets_or_takenPath_iff hseen] at h

/-- The checks of the paths have an error about a type exactly if its path is taken. -/
theorem hasErrorAt_checkPaths :
    (checkPaths es s).HasErrorAt i ↔ ∃ e, es[i]? = some e ∧ TakenPath s (es.take i) e := by
  rw [checkPaths, hasErrorAt_collisionsFrom]
  constructor
  · rintro ⟨k, e, rfl, hk, h⟩
    rw [Nat.zero_add]
    refine ⟨e, hk, h.elim (fun ⟨hf, hm⟩ => ?_) id⟩
    exact .byMarker hf (hm.resolve_right (by simp))
  · rintro ⟨e, hi, h⟩
    exact ⟨i, e, by omega, hi, .inr h⟩

/-! ## The settings -/

theorem hasErrors_checkSettings :
    (checkSettings s).hasErrors = true ↔
      isDottedIdentifier s.namespaceName = false ∨ isIdentifier s.markerName = false ∨
        isNameSuffix s.moduleSuffix = false ∨ isNameSuffix s.mixinSuffix = false := by
  simp only [checkSettings, hasErrors_append, Bool.or_eq_true]
  cases isDottedIdentifier s.namespaceName <;> cases isIdentifier s.markerName <;>
    cases isNameSuffix s.moduleSuffix <;> cases isNameSuffix s.mixinSuffix <;> cases s.coerceMalformed <;>
      simp [Diagnostics.hasErrors, Diagnostic.isError, invalidSetting]

/-! ## A whole validation -/

/-- A type is at an invalid position exactly if it has a flaw or its path is taken. -/
theorem hasErrorAt_full :
    (full es s).HasErrorAt i ↔ ∃ e, es[i]? = some e ∧ (Flaw s e ∨ TakenPath s (es.take i) e) := by
  constructor
  · rintro ⟨d, hd, herr, hi⟩
    rcases mem_full.mp hd with hd | hd | ⟨k, e, hk, hd⟩
    · rw [entityIndex?_of_mem_checkSettings hd] at hi; cases hi
    · obtain ⟨e, he, h⟩ := hasErrorAt_checkPaths.mp ⟨d, hd, herr, hi⟩
      exact ⟨e, he, .inr h⟩
    · obtain rfl := (about_of_mem_checkEntity hd).entityIndex?_eq.mp hi
      exact ⟨e, hk, .inl (hasErrors_checkEntity.mp (hasErrors_iff.mpr ⟨d, hd, herr⟩))⟩
  · rintro ⟨e, he, h | h⟩
    · obtain ⟨d, hd, herr⟩ := hasErrors_iff.mp (h.hasErrors i)
      exact ⟨d, mem_full.mpr (.inr (.inr ⟨i, e, he, hd⟩)), herr, (about_of_mem_checkEntity hd).entityIndex?⟩
    · obtain ⟨d, hd, herr, hi⟩ := hasErrorAt_checkPaths.mpr ⟨e, he, h⟩
      exact ⟨d, mem_full.mpr (.inr (.inl hd)), herr, hi⟩

/-- The positions that are passed over are the invalid ones. -/
theorem condemn_iff_mem : (full es s).condemn i = true ↔ .int i ∈ (full es s).invalidIndexes :=
  condemn_iff.trans mem_invalidIndexes.symm

/-- A type that is not passed over is as its checks want it, and its path is its own. -/
theorem accepted_of_not_condemned (h : (full es s).condemn i = false) (he : es[i]? = some e) :
    AcceptedEntity s e ∧ ¬ TakenPath s (es.take i) e := by
  have hnone : ¬ (Flaw s e ∨ TakenPath s (es.take i) e) := fun hflaw => by
    rw [condemn_iff.mpr (hasErrorAt_full.mpr ⟨e, he, hflaw⟩)] at h
    cases h
  refine ⟨accepted_entity i (Bool.eq_false_iff.mpr fun herr => hnone (.inl (hasErrors_checkEntity.mp herr))),
    fun hp => hnone (.inr hp)⟩

theorem hasGlobalErrors_full :
    (full es s).hasGlobalErrors = true ↔ (checkSettings s).hasErrors = true := by
  rw [Diagnostics.hasGlobalErrors, List.any_eq_true, hasErrors_iff]
  constructor
  · rintro ⟨d, hd, hnone⟩
    obtain ⟨hd, herr⟩ := List.mem_filter.mp hd
    rw [Option.isNone_iff_eq_none] at hnone
    rcases mem_full.mp hd with hd | hd | ⟨k, e, -, hd⟩
    · exact ⟨d, hd, herr⟩
    · obtain ⟨-, k, e, -, ha⟩ := about_of_mem_collisionsFrom hd
      rw [ha.entityIndex?] at hnone; cases hnone
    · rw [(about_of_mem_checkEntity hd).entityIndex?] at hnone; cases hnone
  · rintro ⟨d, hd, herr⟩
    exact ⟨d, List.mem_filter.mpr ⟨mem_full.mpr (.inl hd), herr⟩,
      by rw [entityIndex?_of_mem_checkSettings hd]; rfl⟩

/-- Validation decides which settings and which types are sound. An error without a position says that one of
  the four names in the settings is none; the invalid positions are those of the types with a flaw or a taken
  path; and whatever has a position is about the type there, by its name. -/
theorem full_decides (es : List Entity) (s : Settings) :
    ((full es s).hasGlobalErrors = true ↔
      isDottedIdentifier s.namespaceName = false ∨ isIdentifier s.markerName = false ∨
        isNameSuffix s.moduleSuffix = false ∨ isNameSuffix s.mixinSuffix = false) ∧
    (∀ i : Nat, .int i ∈ (full es s).invalidIndexes ↔
      ∃ e, es[i]? = some e ∧ (Flaw s e ∨ TakenPath s (es.take i) e)) ∧
    (∀ v ∈ (full es s).invalidIndexes, ∃ i : Nat, v = .int i ∧ i < es.length) ∧
    ∀ d ∈ full es s, ∀ v, d.entityIndex? = some v →
      ∃ (i : Nat) (e : Entity), v = .int i ∧ es[i]? = some e ∧
        Value.field? d.context "type" = some (.text e.typeName) := by
  refine ⟨hasGlobalErrors_full.trans hasErrors_checkSettings, fun i => mem_invalidIndexes.trans hasErrorAt_full,
    fun v => lt_of_mem_invalidIndexes, fun d hd v hv => ?_⟩
  obtain ⟨i, e, rfl, he, ha⟩ := about_of_entityIndex? hd hv
  exact ⟨i, e, rfl, he, ha.typeName⟩

/-- Two types whose names differ as words do not, but as files do. -/
theorem full_decides_itemRepo :
    .int 1 ∈ (full [⟨"ItemRepo", "items", ["title"], [], 1, none, none, none, none⟩,
      ⟨"Item_Repo", "items", ["title"], [], 1, none, none, none, none⟩] .default).invalidIndexes := by
  refine ((full_decides _ _).2.1 1).mpr ⟨_, rfl, .inr (.byType _ (by simp) (List.mem_singleton_self _) (by simp) ?_)⟩
  decide +kernel

end Validation

end CrudQueries
