/-
  CrudQueries.Proofs.Generation.Rescan — the files of an accepted input, scanned again.

  No entity is ever found in a generated file. Validation accepts names that a class cannot have: a
  keyword for the marker, a keyword made of a type's name and the suffix, and any of them with a
  newline at its end; it accepts a table with a null character and a field with a newline, too. All
  generated files can be read exactly if none of that is written into one (`files_inert_iff`).
-/

import CrudQueries.Proofs.Discovery.Marked
import CrudQueries.Proofs.Fragment.MarkerSource
import CrudQueries.Proofs.Fragment.MixinSource
import CrudQueries.Proofs.Generation.Synthesis

namespace CrudQueries.Generation

open CrudQueries.Data
open CrudQueries.Discovery (Origin fieldNames mem_missingFrom missingPositions scan)
open CrudQueries.Fragment (Quotable holdsNull isQuotable isReadable markerPath markerText mixin renderAll scan_markerText
  scan_mixin)
open CrudQueries.Source (isClassName)
open CrudQueries.Validation (AcceptedEntity AcceptedSettings accepted_of_full full wellFormedFields)

variable {settings : Settings} {entities : List Entity} {e : Entity} {table : String}

/-! ## Fields that validation passes over -/

/-- The fields at malformed positions can stand between quotes. -/
def PassesQuotable (e : Entity) : Prop := ∀ f ∈ e.fields, f ∈ wellFormedFields e ∨ isQuotable f = true

/-- What a search finds has the empty text at every malformed position. -/
theorem passesQuotable_entityOf (origin : Origin) (c : Source.ClassDef) (marker : Source.Expr) (count : Nat) :
    PassesQuotable (Discovery.entityOf origin c marker count) := by
  intro f hf
  obtain ⟨i, hi⟩ := List.mem_iff_getElem?.mp hf
  change (fieldNames marker.markerArguments)[i]? = some f at hi
  rw [fieldNames, List.getElem?_map] at hi
  obtain ⟨v, hv, rfl⟩ := Option.map_eq_some_iff.mp hi
  cases v with
  -- The empty text stands for an argument that is no text.
  | none => exact Or.inr (by decide)
  | some f =>
    refine Or.inl (List.mem_map.mpr ⟨(f, i), List.mem_filter.mpr ⟨?_, ?_⟩, rfl⟩)
    · rw [List.mem_zipIdx_iff_getElem?]
      change (fieldNames marker.markerArguments)[i]? = some f
      simp [fieldNames, hv]
    · have hn : i ∉ missingPositions marker.markerArguments := fun hm => by
        obtain ⟨k, hk, hnone⟩ := mem_missingFrom.mp hm
        obtain rfl : i = k := by omega
        rw [hv] at hnone
        cases hnone
      have hc : (i : Int) ∉ (missingPositions marker.markerArguments).map Int.ofNat := by
        intro hmem
        obtain ⟨j, hj, he⟩ := List.mem_map.mp hmem
        obtain rfl : j = i := Int.ofNat.inj he
        exact hn hj
      show (!((missingPositions marker.markerArguments).map Int.ofNat).contains (i : Int)) = true
      rw [Bool.not_eq_true', ← Bool.not_eq_true, List.contains_iff_mem]
      exact hc

/-! ## The files -/

theorem isQuotable_identifier {s : String} (h : Text.isIdentifier s = true) : isQuotable s = true := by
  refine List.all_eq_true.mpr fun c hc => ?_
  rcases Text.mem_identifier h hc with h | rfl
  · have hn : ∀ d ∈ ['"', '\\', '\r'], c ≠ d := by
      rintro d hd rfl
      simp only [List.mem_cons, List.not_mem_nil, or_false] at hd
      rcases hd with rfl | rfl | rfl <;> exact absurd h (by decide)
    simpa using hn
  · decide

/-- What validation establishes about the texts of a mixin. -/
theorem quotable_accepted (hs : AcceptedSettings settings) (ha : AcceptedEntity settings e) (hp : PassesQuotable e)
    (hf : e.fields ≠ []) (ht : e.table = some table) : Quotable settings e table := by
  have hu : ∀ c ∈ table.toList, Validation.isUnsafeInTable c = false := by
    simpa [ht, List.any_eq_false] using ha.safeTable hf
  refine ⟨ha.typeName, hs.mixinSuffix, fun f hm => ?_, ?_, fun hm => ?_⟩
  · exact (hp f hm).elim (fun hw => isQuotable_identifier (ha.fields f hw).1) id
  · refine List.all_eq_true.mpr fun c hc => ?_
    have := hu c hc
    simp only [Validation.isUnsafeInTable, Bool.or_eq_false_iff, beq_eq_false_iff_ne, ne_eq] at this
    simp [this]
  · exact absurd (hu _ hm) (by decide)

/-- The fragment of an accepted type in Python is its mixin. -/
theorem mem_fragmentFiles (hl : settings.language = .python) (ha : AcceptedEntity settings e) {f : String × String} :
    f ∈ fragmentFiles settings e ↔
      e.fields ≠ [] ∧ ∃ table, e.table = some table ∧ f = (Fragment.path settings e, mixin settings e table) := by
  by_cases hf : e.fields = []
  · have hr : Fragment.render settings e = .ok none := by simp [Fragment.render, hf]
    simp [fragmentFiles, Fragment.fileOf, hr, Except.map, Except.toOption, hf]
  · have ht := ha.table hf hl
    cases hb : e.table with
    | none => simp [hb] at ht
    | some table =>
      rw [hb] at ht
      have hk : Fragment.knownTable? e = some table := by simpa [Fragment.knownTable?, hb] using ht
      simp [fragmentFiles, Fragment.fileOf, Fragment.render, hl, hk, hf, Except.map, Except.toOption]

/-! ## Scanning them -/

theorem scan_fragment (hl : settings.language = .python) (hs : AcceptedSettings settings) (ha : AcceptedEntity settings e)
    (hp : PassesQuotable e) {f : String × String} (hf : f ∈ fragmentFiles settings e) (marker : String) (origin : Origin) :
    scan f.2 marker origin =
      if holdsNull e (e.table.getD "") then .error .nullCharacter
      else if isReadable settings e then .ok []
      else .error (.malformed origin.fileName) := by
  obtain ⟨hne, table, ht, rfl⟩ := (mem_fragmentFiles hl ha).mp hf
  have hq := quotable_accepted hs ha hp hne ht
  rw [ht, Option.getD_some]
  exact scan_mixin hq marker origin

/-- The files of an accepted input hold no entities, and all of them can be read exactly if the marker has a name that a
  class can have and so has every mixin, no field goes on over its line and no table and no field holds a null
  character. -/
theorem files_inert_iff (hl : settings.language = .python) (h : (full entities settings).hasErrors = false)
    (hp : ∀ e ∈ entities, PassesQuotable e) (origin : String → Origin) :
    ∃ files, renderAll settings entities = .ok files ∧
      (∀ f ∈ files, ∀ found, scan f.2 settings.markerName (origin f.1) = .ok found → found = []) ∧
      ((∀ f ∈ files, scan f.2 settings.markerName (origin f.1) = .ok []) ↔
        ((markerPath settings, markerText settings) ∈ files → isClassName settings.markerName = true) ∧
          ∀ e ∈ entities, ∀ f ∈ fragmentFiles settings e, f ∈ files →
            isReadable settings e = true ∧ holdsNull e (e.table.getD "") = false) := by
  obtain ⟨hs, ha⟩ := accepted_of_full h
  have hmarker := fun origin => scan_markerText hl hs.markerName origin
  have hfragment : ∀ e ∈ entities, ∀ f ∈ fragmentFiles settings e, ∀ origin, scan f.2 settings.markerName origin = _ :=
    fun e he f hf origin => scan_fragment hl hs (ha e he) (hp e he) hf settings.markerName origin
  have hcases : ∀ f ∈ allFiles settings entities,
      f = (markerPath settings, markerText settings) ∨ ∃ e ∈ entities, f ∈ fragmentFiles settings e := by
    intro f hf
    rcases Entries.mem_putAll _ _ hf with hf | hf
    · exact Or.inl (List.mem_singleton.mp hf)
    · exact Or.inr (List.mem_flatMap.mp hf)
  refine ⟨allFiles settings entities, renderAll_eq ha, ?_, ?_, ?_⟩
  · intro f hf found hfound
    rcases hcases f hf with rfl | ⟨e, he, hf⟩
    · rw [hmarker] at hfound
      split at hfound <;> cases hfound
      rfl
    · rw [hfragment e he f hf] at hfound
      split at hfound
      · cases hfound
      · split at hfound <;> cases hfound
        rfl
  · intro hall
    refine ⟨fun hm => ?_, fun e he f hf hm => ?_⟩
    · have hscan := hall _ hm
      rw [hmarker] at hscan
      split at hscan
      · assumption
      · cases hscan
    · have hscan := hall f hm
      rw [hfragment e he f hf] at hscan
      split at hscan
      · cases hscan
      · split at hscan
        · exact ⟨by assumption, Bool.eq_false_iff.mpr (by assumption)⟩
        · cases hscan
  · rintro ⟨hm, hr⟩ f hf
    rcases hcases f hf with rfl | ⟨e, he, hfe⟩
    · rw [hmarker, if_pos (hm hf)]
    · obtain ⟨hread, hnull⟩ := hr e he f hfe hf
      rw [hfragment e he f hfe, hnull, hread]
      rfl

/-- A type whose second field was no text, coerced. -/
theorem files_inert_iff_coerced :
    let settings : Settings := { coerceMalformed := true }
    let e : Entity := ⟨"Item", some "items", ["name", ""], [1], 1, none, none, none, none⟩
    settings.language = .python ∧ (full [e] settings).hasErrors = false ∧ (∀ d ∈ [e], PassesQuotable d) ∧
      ∃ files, renderAll settings [e] = .ok files ∧ ∀ f ∈ files, scan f.2 settings.markerName {} = .ok [] := by
  intro settings e
  have hv : (full [e] settings).hasErrors = false := by decide +kernel
  have hp : ∀ d ∈ [e], PassesQuotable d := by
    intro d hd
    obtain rfl := List.mem_singleton.mp hd
    intro f hf
    simp only [e, List.mem_cons, List.not_mem_nil, or_false] at hf
    rcases hf with rfl | rfl
    · exact Or.inl (by decide)
    · exact Or.inr (by decide)
  obtain ⟨files, hr, -, hiff⟩ := files_inert_iff rfl hv hp fun _ => {}
  refine ⟨rfl, hv, hp, files, hr, hiff.mpr ⟨fun _ => by decide, fun d hd _ _ _ => ?_⟩⟩
  obtain rfl := List.mem_singleton.mp hd
  exact ⟨by decide, by decide⟩

/-- A marker with a keyword for its name passes validation, and its declaration cannot be read. -/
theorem keyword_marker_malformed :
    let settings : Settings := { markerName := "class" }
    (full [] settings).hasErrors = false ∧ ∃ files, renderAll settings [] = .ok files ∧
      ∃ f ∈ files, scan f.2 settings.markerName {} = .error (.malformed "<string>") := by
  intro settings
  have hscan := scan_markerText (show settings.language = .python from rfl) (by decide) {}
  have hname : isClassName settings.markerName = false := by decide
  rw [hname] at hscan
  exact ⟨by decide, _, rfl, _, List.mem_cons_self, hscan⟩

end CrudQueries.Generation
