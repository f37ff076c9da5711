/-
  CrudQueries.Proofs.Generation.Synthesis — the files of a run whose validation has no errors.

  Every type with fields then has a fragment, so rendering all types does not stop (`renderAll_eq`),
  a run hands the same files to its export (`synthesise_files`), and their paths are those of the
  marker declaration and of the types with fields (`mem_keys_files`).
-/

import CrudQueries.Generation.Run
import CrudQueries.Proofs.Data.Entries
import CrudQueries.Proofs.Validation.Accepted

namespace CrudQueries.Generation

open CrudQueries.Data
open CrudQueries.Fragment (fileOf markerPath markerText render renderAll)
open CrudQueries.Validation (AcceptedEntity Diagnostics accepted_of_full not_condemned full)

variable {settings : Settings} {entities : List Entity}

/-- The fragment of a type with its path, if it has one. -/
def fragmentFiles (settings : Settings) (e : Entity) : List (String × String) :=
  ((fileOf settings e).toOption).getD []

/-- An accepted type with fields has a fragment. -/
theorem render_accepted {e : Entity} (h : AcceptedEntity settings e) (hf : e.fields ≠ []) :
    ∃ text, render settings e = .ok (some text) := by
  simp only [render, List.isEmpty_iff, hf, if_false]
  cases hl : settings.language with
  | csharp => exact ⟨_, rfl⟩
  | python =>
    have ht := h.table hf hl
    cases hb : e.table with
    | none => simp [hb] at ht
    | some table =>
      rw [hb] at ht
      have hk : Fragment.knownTable? e = some table := by simpa [Fragment.knownTable?, hb] using ht
      exact ⟨Fragment.mixin settings e table, by simp [hk]⟩

theorem fileOf_accepted {e : Entity} (h : AcceptedEntity settings e) :
    fileOf settings e = .ok (fragmentFiles settings e) := by
  by_cases hf : e.fields = []
  · have hr : render settings e = .ok none := by simp [render, hf]
    simp [fragmentFiles, fileOf, hr, Except.map, Except.toOption]
  · obtain ⟨text, hr⟩ := render_accepted h hf
    simp [fragmentFiles, fileOf, hr, Except.map, Except.toOption]

/-- The path of an accepted type's fragment is the only one. -/
theorem keys_fragmentFiles {e : Entity} (h : AcceptedEntity settings e) :
    (fragmentFiles settings e).map (·.1) = if e.fields = [] then [] else [Fragment.path settings e] := by
  by_cases hf : e.fields = []
  · have hr : render settings e = .ok none := by simp [render, hf]
    simp [fragmentFiles, fileOf, hr, Except.map, Except.toOption, hf]
  · obtain ⟨text, hr⟩ := render_accepted h hf
    simp [fragmentFiles, fileOf, hr, Except.map, Except.toOption, hf]

/-- All files of accepted types, by path. -/
def allFiles (settings : Settings) (entities : List Entity) : List (String × String) :=
  Entries.putAll [(markerPath settings, markerText settings)] (entities.flatMap (fragmentFiles settings))

theorem renderAll_eq (h : ∀ e ∈ entities, AcceptedEntity settings e) :
    renderAll settings entities = .ok (allFiles settings entities) := by
  have from' : ∀ files, entities.foldlM (fun files e => (fileOf settings e).map (Entries.putAll files)) files =
      .ok (Entries.putAll files (entities.flatMap (fragmentFiles settings))) := by
    induction entities with
    | nil => intro files; rfl
    | cons e entities ih =>
      intro files
      have he := fileOf_accepted (h e List.mem_cons_self)
      simp only [List.foldlM_cons, he, Except.map, List.flatMap_cons, Entries.putAll_append]
      exact ih (fun d hd => h d (List.mem_cons_of_mem _ hd)) _
  exact from' _

/-- The files that a fate comes with. -/
def Fate.files : Fate → List (String × String)
  | .rendered files _ => files
  | _ => []

/-- The files of a run are the marker declaration and those of all fates, in order. -/
theorem files_of_fates (ds : Diagnostics) :
    (synthesise settings ds entities).files =
      Entries.putAll [(markerPath settings, markerText settings)]
        (entities.zipIdx.flatMap fun p => (fateOf settings ds p.2 p.1).files) := by
  rw [← List.flatMap_map (fun p : Entity × Nat => (p.1, fateOf settings ds p.2 p.1)) fun q => q.2.files]
  refine congrArg (Entries.putAll _) (congrArg (List.flatMap · _) (funext ?_))
  rintro ⟨e, fate⟩
  cases fate <;> rfl

/-- Without errors no type is passed over. -/
theorem synthesise_files (h : (full entities settings).hasErrors = false) :
    (synthesise settings (full entities settings) entities).files = allFiles settings entities := by
  have hfates : (entities.zipIdx.flatMap fun p => (fateOf settings (full entities settings) p.2 p.1).files) =
      entities.flatMap (fragmentFiles settings) := by
    have hone : ∀ p ∈ entities.zipIdx,
        (fateOf settings (full entities settings) p.2 p.1).files = fragmentFiles settings p.1 := by
      rintro ⟨e, i⟩ hp
      have he := (accepted_of_full h).2 e (List.fst_mem_of_mem_zipIdx hp)
      by_cases hf : e.fields = []
      · have hk := keys_fragmentFiles he
        rw [if_pos hf, List.map_eq_nil_iff] at hk
        simp [fateOf, not_condemned h, hf, hk, Fate.files]
      · simp [fateOf, not_condemned h, hf, fileOf_accepted he, Fate.files]
    rw [List.flatMap_def, List.map_congr_left hone, ← List.flatMap_def, ← List.flatMap_map Prod.fst (fragmentFiles settings),
      List.zipIdx_map_fst]
  rw [files_of_fates, hfates]
  rfl

/-- The paths of all files. -/
theorem mem_keys_files (h : ∀ e ∈ entities, AcceptedEntity settings e) {p : String} :
    p ∈ (allFiles settings entities).map (·.1) ↔
      p = markerPath settings ∨ ∃ e ∈ entities, e.fields ≠ [] ∧ p = Fragment.path settings e := by
  rw [allFiles, Entries.mem_keys_putAll, List.map_flatMap, List.mem_flatMap]
  simp only [List.map_cons, List.map_nil, List.mem_singleton]
  refine or_congr Iff.rfl (exists_congr fun e => ?_)
  constructor
  · rintro ⟨he, hp⟩
    rw [keys_fragmentFiles (h e he)] at hp
    by_cases hf : e.fields = []
    · simp [hf] at hp
    · exact ⟨he, hf, by simpa [hf] using hp⟩
  · rintro ⟨he, hf, rfl⟩
    exact ⟨he, by rw [keys_fragmentFiles (h e he)]; simp [hf]⟩

end CrudQueries.Generation
