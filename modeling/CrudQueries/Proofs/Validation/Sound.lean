/-
  CrudQueries.Proofs.Validation.Sound — what passes validation does so in any order, and so does any part of it.

  Which of two types with one path is at fault depends on their order, but whether some type is does not.
  A list without errors is one of types without flaws whose paths are all different (`Sound`,
  `hasErrors_full_iff`), and that can be said of each type and of each two types. So it holds of the same
  types in another order (`hasErrors_full_perm`) and of a selection (`hasErrors_full_sublist`). Leaving out the
  types at the invalid positions (`validPart`) leaves such a list, whatever was wrong with them
  (`hasErrors_validPart`). Warnings are about one type each, so their order does not matter either
  (`hasWarnings_full_perm`).
-/

import CrudQueries.Proofs.Validation.Flaw

namespace CrudQueries.Validation

open CrudQueries.Data (Value)

variable {s : Settings} {es es' : List Entity} {e : Entity} {i j : Nat}

/-- Types without flaws, whose fragments have paths of their own, whatever the case of the letters. -/
structure Sound (s : Settings) (es : List Entity) : Prop where
  noFlaw : ∀ e ∈ es, ¬ Flaw s e
  offMarker : ∀ e ∈ es, e.fields ≠ [] → pathKey (Fragment.path s e) ≠ pathKey (Fragment.markerPath s)
  apart : es.Pairwise fun d e => d.fields ≠ [] → e.fields ≠ [] →
    pathKey (Fragment.path s d) ≠ pathKey (Fragment.path s e)

namespace Sound

theorem perm (h : Sound s es) (hp : es.Perm es') : Sound s es' := by
  refine ⟨fun e he => h.noFlaw e (hp.mem_iff.mpr he), fun e he => h.offMarker e (hp.mem_iff.mpr he), ?_⟩
  refine (hp.pairwise_iff fun {d e} hde hf hg heq => ?_).mp h.apart
  exact hde hg hf heq.symm

theorem sublist (h : Sound s es) (hs : es'.Sublist es) : Sound s es' :=
  ⟨fun e he => h.noFlaw e (hs.subset he), fun e he => h.offMarker e (hs.subset he), h.apart.sublist hs⟩

end Sound

/-- No type of a sound list has a taken path, and a list without flaws and taken paths is sound. -/
theorem sound_iff : Sound s es ↔ ∀ i e, es[i]? = some e → ¬ Flaw s e ∧ ¬ TakenPath s (es.take i) e := by
  constructor
  · intro h i e hi
    refine ⟨h.noFlaw e (List.mem_of_getElem? hi), fun htaken => ?_⟩
    cases htaken with
    | byMarker hf heq => exact h.offMarker e (List.mem_of_getElem? hi) hf heq
    | byType first hf hmem hfirst heq =>
      obtain ⟨j, hj, rfl⟩ := List.mem_take_iff_getElem.mp hmem
      obtain ⟨hlt, rfl⟩ := List.getElem?_eq_some_iff.mp hi
      have hji : j < i := by omega
      exact List.pairwise_iff_getElem.mp h.apart j i (by omega) hlt hji hfirst hf heq.symm
  · intro h
    refine ⟨fun e he => ?_, fun e he hf heq => ?_, ?_⟩
    · obtain ⟨i, hi⟩ := List.mem_iff_getElem?.mp he
      exact (h i e hi).1
    · obtain ⟨i, hi⟩ := List.mem_iff_getElem?.mp he
      exact (h i e hi).2 (.byMarker hf heq)
    · rw [List.pairwise_iff_getElem]
      intro j i hj hi hji hfirst hf heq
      have hmem : es[j] ∈ es.take i := List.mem_take_iff_getElem.mpr ⟨j, by omega, rfl⟩
      exact (h i es[i] (List.getElem?_eq_getElem hi)).2 (.byType es[j] hf hmem hfirst heq.symm)

/-! ## A whole validation -/

/-- An error is one of the settings, or about a type. -/
theorem hasErrors_full :
    (full es s).hasErrors = true ↔ (checkSettings s).hasErrors = true ∨ ∃ i, (full es s).HasErrorAt i := by
  rw [hasErrors_iff, hasErrors_iff]
  constructor
  · rintro ⟨d, hd, herr⟩
    rcases mem_full.mp hd with h | h | ⟨i, e, -, h⟩
    · exact .inl ⟨d, h, herr⟩
    · obtain ⟨-, k, e, -, ha⟩ := about_of_mem_collisionsFrom h
      exact .inr ⟨0 + k, d, hd, herr, ha.entityIndex?⟩
    · exact .inr ⟨i, d, hd, herr, (about_of_mem_checkEntity h).entityIndex?⟩
  · rintro (⟨d, hd, herr⟩ | ⟨i, d, hd, herr, -⟩)
    · exact ⟨d, mem_full.mpr (.inl hd), herr⟩
    · exact ⟨d, hd, herr⟩

/-- There is no error exactly if there is none of the settings and the types are sound. -/
theorem hasErrors_full_iff :
    (full es s).hasErrors = false ↔ (checkSettings s).hasErrors = false ∧ Sound s es := by
  rw [← Bool.not_eq_true, ← Bool.not_eq_true, hasErrors_full, not_or, sound_iff, not_exists]
  refine and_congr_right fun _ => ?_
  constructor
  · intro h i e hi
    have hnone : ¬ (Flaw s e ∨ TakenPath s (es.take i) e) := fun hw => h i (hasErrorAt_full.mpr ⟨e, hi, hw⟩)
    exact not_or.mp hnone
  · intro h i hat
    obtain ⟨e, hi, hw⟩ := hasErrorAt_full.mp hat
    exact not_or.mpr (h i e hi) hw

theorem hasErrors_full_perm (hp : es.Perm es') (h : (full es s).hasErrors = false) :
    (full es' s).hasErrors = false := by
  obtain ⟨hs, hsound⟩ := hasErrors_full_iff.mp h
  exact hasErrors_full_iff.mpr ⟨hs, hsound.perm hp⟩

theorem hasErrors_full_sublist (hs : es'.Sublist es) (h : (full es s).hasErrors = false) :
    (full es' s).hasErrors = false := by
  obtain ⟨hsettings, hsound⟩ := hasErrors_full_iff.mp h
  exact hasErrors_full_iff.mpr ⟨hsettings, hsound.sublist hs⟩

/-! ## The valid part of a list -/

/-- Is the position among the invalid ones? -/
def isInvalidAt (ds : Diagnostics) (i : Nat) : Bool := ds.invalidIndexes.any (Value.sameKey (.int i))

/-- The types at positions that are not invalid. -/
def validPart (s : Settings) (es : List Entity) : List Entity :=
  (es.zipIdx.filter fun (_, i) => !isInvalidAt (full es s) i).map (·.1)

theorem isInvalidAt_eq_condemn : isInvalidAt (full es s) i = (full es s).condemn i := by
  rw [Bool.eq_iff_iff, condemn_iff_mem, isInvalidAt, List.any_eq_true]
  constructor
  · rintro ⟨v, hv, hkey⟩
    obtain ⟨j, rfl, -⟩ := lt_of_mem_invalidIndexes hv
    rw [sameKey_int, beq_iff_eq] at hkey
    rwa [hkey]
  · intro hmem
    exact ⟨_, hmem, by rw [sameKey_int, beq_self_eq_true]⟩

theorem validPart_eq :
    validPart s es = (es.zipIdx.filter fun (_, i) => !(full es s).condemn i).map (·.1) := by
  unfold validPart
  simp only [isInvalidAt_eq_condemn]

/-- Once they are left out nothing is wrong with the others: of two with one path the second was left out. -/
theorem sound_validPart (s : Settings) (es : List Entity) : Sound s (validPart s es) := by
  have hkept : ∀ e ∈ validPart s es, ∃ i, es[i]? = some e ∧ ¬ Flaw s e ∧ ¬ TakenPath s (es.take i) e := by
    intro e he
    rw [validPart_eq] at he
    obtain ⟨⟨d, i⟩, hmem, rfl⟩ := List.mem_map.mp he
    obtain ⟨hmem, hc⟩ := List.mem_filter.mp hmem
    have hi := List.mem_zipIdx_iff_getElem?.mp hmem
    have hnot : ¬ (full es s).HasErrorAt i := by
      rw [← condemn_iff, Bool.not_eq_true]
      simpa using hc
    exact ⟨i, hi, not_or.mp fun hw => hnot (hasErrorAt_full.mpr ⟨d, hi, hw⟩)⟩
  refine ⟨fun e he => ?_, fun e he hf heq => ?_, ?_⟩
  · obtain ⟨i, -, hflaw, -⟩ := hkept e he
    exact hflaw
  · obtain ⟨i, -, -, htaken⟩ := hkept e he
    exact htaken (.byMarker hf heq)
  · rw [validPart_eq, List.pairwise_map, List.pairwise_filter, List.pairwise_iff_getElem]
    intro i j hi hj hlt hci hcj hf hg heq
    simp only [List.length_zipIdx] at hi hj
    simp only [List.getElem_zipIdx, Nat.zero_add, Bool.not_eq_true'] at hci hcj hf hg heq
    have hmem : es[i] ∈ es.take j := List.mem_take_iff_getElem.mpr ⟨i, by omega, rfl⟩
    -- The path of the later one is taken by the earlier.
    have htaken := (accepted_of_not_condemned hcj (List.getElem?_eq_getElem hj)).2
    exact htaken (.byType es[i] hg hmem hf heq.symm)

theorem hasErrors_validPart (h : (checkSettings s).hasErrors = false) :
    (full (validPart s es) s).hasErrors = false :=
  hasErrors_full_iff.mpr ⟨h, sound_validPart s es⟩

/-! ## Warnings -/

/-- The levels of diagnostics, in their order. -/
def Diagnostics.levels (ds : Diagnostics) : List Level := ds.map (·.level)

theorem hasWarnings_iff {ds : Diagnostics} : ds.hasWarnings = true ↔ Level.warning ∈ ds.levels := by
  simp [Diagnostics.hasWarnings, Diagnostics.levels, Diagnostic.isWarning]

theorem levels_append (ds ds' : Diagnostics) : Diagnostics.levels (ds ++ ds') = ds.levels ++ Diagnostics.levels ds' :=
  List.map_append

theorem levels_checkTypeName : (checkTypeName i e s).levels = (checkTypeName j e s).levels := by
  unfold checkTypeName
  simp only [levels_append]
  congr 1
  · split
    · rfl
    · split <;> rfl
  · split <;> rfl

theorem levels_checkFieldName {name : String} :
    (checkFieldName i e name).levels = (checkFieldName j e name).levels := by
  unfold checkFieldName
  simp only
  split
  · rfl
  · simp only [levels_append]
    congr 1
    · split <;> rfl
    · split <;> rfl

theorem level_malformedField (position : Int) :
    (malformedField i e s position).level = if s.coerceMalformed then .warning else .error := by
  unfold malformedField
  split <;> rfl

theorem levels_checkFields : (checkFields i e s).levels = (checkFields j e s).levels := by
  unfold checkFields
  split
  · rfl
  · simp only [levels_append]
    congr 1
    · simp only [Diagnostics.levels, List.map_map]
      congr 1
      refine List.map_congr_left fun position _ => ?_
      rw [Function.comp_apply, Function.comp_apply, level_malformedField, level_malformedField]
    · simp only [Diagnostics.levels, List.map_flatMap]
      exact List.flatMap_congr fun name _ => levels_checkFieldName

theorem levels_checkTable : (checkTable i e s).levels = (checkTable j e s).levels := by
  unfold checkTable
  simp only
  split
  · rfl
  · split
    · split <;> rfl
    · split
      · rfl
      · split <;> rfl

/-- What is said of a type is of the same weight wherever it stands. -/
theorem levels_checkEntity : (checkEntity i e s).levels = (checkEntity j e s).levels := by
  unfold checkEntity
  simp only [levels_append]
  rw [levels_checkTypeName (j := j), levels_checkFields (j := j), levels_checkTable (j := j)]

theorem hasWarnings_checkSettings : (checkSettings s).hasWarnings = false := by
  unfold checkSettings
  simp only [Diagnostics.hasWarnings, List.any_append, Bool.or_eq_false_iff]
  refine ⟨⟨⟨⟨?_, ?_⟩, ?_⟩, ?_⟩, ?_⟩
  all_goals split <;> rfl

theorem hasWarnings_full :
    (full es s).hasWarnings = true ↔ ∃ e ∈ es, (checkEntity 0 e s).hasWarnings = true := by
  constructor
  · intro h
    obtain ⟨d, hd, hw⟩ := List.any_eq_true.mp h
    rcases mem_full.mp hd with h | h | ⟨i, e, hi, h⟩
    · have hnone := List.any_eq_false.mp (hasWarnings_checkSettings (s := s)) d h
      exact absurd hw hnone
    · have herr := (about_of_mem_collisionsFrom h).1
      simp only [Diagnostic.isError, Diagnostic.isWarning, beq_iff_eq] at herr hw
      rw [herr] at hw
      cases hw
    · refine ⟨e, List.mem_of_getElem? hi, ?_⟩
      rw [hasWarnings_iff, levels_checkEntity (j := i), ← hasWarnings_iff]
      exact List.any_eq_true.mpr ⟨d, h, hw⟩
  · rintro ⟨e, he, h⟩
    obtain ⟨i, hi⟩ := List.mem_iff_getElem?.mp he
    rw [hasWarnings_iff, levels_checkEntity (j := i), ← hasWarnings_iff] at h
    obtain ⟨d, hd, hw⟩ := List.any_eq_true.mp h
    exact List.any_eq_true.mpr ⟨d, mem_full.mpr (.inr (.inr ⟨i, e, hi, hd⟩)), hw⟩

theorem hasWarnings_full_perm (hp : es.Perm es') : (full es' s).hasWarnings = (full es s).hasWarnings := by
  rw [Bool.eq_iff_iff, hasWarnings_full, hasWarnings_full]
  exact exists_congr fun e => and_congr_left fun _ => hp.mem_iff.symm

end CrudQueries.Validation
