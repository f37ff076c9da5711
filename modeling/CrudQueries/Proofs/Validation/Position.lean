/-
  CrudQueries.Proofs.Validation.Position — which type a diagnostic is about.

  A diagnostic about a type has the type's position and name in its context (`IsAbout`). The checks of
  one type and of the paths make diagnostics about the type they look at, those of the settings are
  about none. So in a whole validation every position is that of a type, and the name beside it is that
  type's (`about_of_entityIndex?`). Positions being whole numbers, one is among the invalid ones exactly
  if some error is about it (`mem_invalidIndexes`), and the same errors condemn it (`condemn_iff`).
-/

import CrudQueries.Validation.Full

namespace CrudQueries.Validation

open CrudQueries.Data (Value)

variable {d : Diagnostic} {ds : Diagnostics} {index i : Nat} {e : Entity} {s : Settings}

/-! ## Contexts -/

/-- The context of a diagnostic is one of the type at `index`. -/
def Diagnostic.IsAbout (d : Diagnostic) (index : Nat) (e : Entity) : Prop :=
  ∃ more, d.context = about index e more

theorem Diagnostic.IsAbout.entityIndex? (h : d.IsAbout index e) : d.entityIndex? = some (.int index) := by
  obtain ⟨more, hc⟩ := h
  simp [Diagnostic.entityIndex?, hc, about, Value.field?, Value.get?, Value.sameKey]

theorem Diagnostic.IsAbout.typeName (h : d.IsAbout index e) :
    Value.field? d.context "type" = some (.text e.typeName) := by
  obtain ⟨more, hc⟩ := h
  have hne : ("index" == "type") = false := by decide
  simp [hc, about, Value.field?, Value.get?, Value.sameKey, hne]

/-! ## The diagnostics of each check -/

theorem about_of_mem_checkTypeName (h : d ∈ checkTypeName index e s) : d.IsAbout index e := by
  simp only [checkTypeName, List.mem_append] at h
  rcases h with h | h
  · split at h
    · exact ⟨[], by rw [List.mem_singleton.mp h]⟩
    · split at h
      · exact ⟨[], by rw [List.mem_singleton.mp h]⟩
      · cases h
  · split at h
    · exact ⟨[], by rw [List.mem_singleton.mp h]⟩
    · cases h

theorem about_malformedField (position : Int) : (malformedField index e s position).IsAbout index e := by
  rw [malformedField]
  split <;> exact ⟨_, rfl⟩

theorem about_of_mem_checkFieldName {name : String} (h : d ∈ checkFieldName index e name) : d.IsAbout index e := by
  simp only [checkFieldName] at h
  split at h
  · exact ⟨_, by rw [List.mem_singleton.mp h]⟩
  · rcases List.mem_append.mp h with h | h
    all_goals
      split at h
      · exact ⟨_, by rw [List.mem_singleton.mp h]⟩
      · cases h

theorem about_of_mem_checkFields (h : d ∈ checkFields index e s) : d.IsAbout index e := by
  rw [checkFields] at h
  split at h
  · exact ⟨[], by rw [List.mem_singleton.mp h]⟩
  · simp only [List.mem_append, List.mem_map, List.mem_flatMap] at h
    rcases h with (⟨position, -, rfl⟩ | ⟨repeatedName, -, rfl⟩) | ⟨name, -, h⟩
    · exact about_malformedField position
    · exact ⟨_, rfl⟩
    · exact about_of_mem_checkFieldName h

theorem about_of_mem_checkTable (h : d ∈ checkTable index e s) : d.IsAbout index e := by
  simp only [checkTable] at h
  split at h
  · cases h
  · split at h
    · split at h
      all_goals exact ⟨[], by rw [List.mem_singleton.mp h]⟩
    · split at h
      · exact ⟨_, by rw [List.mem_singleton.mp h]⟩
      · split at h
        · exact ⟨_, by rw [List.mem_singleton.mp h]⟩
        · cases h

theorem about_of_mem_checkEntity (h : d ∈ checkEntity index e s) : d.IsAbout index e := by
  simp only [checkEntity, List.mem_append] at h
  rcases h with (h | h) | h
  · exact about_of_mem_checkTypeName h
  · exact about_of_mem_checkFields h
  · exact about_of_mem_checkTable h

theorem about_fragmentCollision (first : Entity) (path : String) :
    (fragmentCollision index e first path).IsAbout index e := by
  simp only [fragmentCollision]
  split <;> exact ⟨_, rfl⟩

theorem isError_fragmentCollision (first : Entity) (path : String) :
    (fragmentCollision index e first path).isError = true := by
  simp only [fragmentCollision]
  split <;> rfl

/-- A diagnostic of the paths is an error about the type at whose turn it was made. -/
theorem about_of_mem_collisionsFrom {es : List Entity} {seen : List (String × Entity)}
    (h : d ∈ collisionsFrom s index seen es) :
    d.isError = true ∧ ∃ k e, es[k]? = some e ∧ d.IsAbout (index + k) e := by
  have later {first : Entity} {rest : List Entity} {index : Nat}
      (h : d.isError = true ∧ ∃ k e, rest[k]? = some e ∧ d.IsAbout (index + 1 + k) e) :
      d.isError = true ∧ ∃ k e, (first :: rest)[k]? = some e ∧ d.IsAbout (index + k) e := by
    obtain ⟨herr, k, e, hk, ha⟩ := h
    exact ⟨herr, k + 1, e, by simpa using hk, by rwa [show index + (k + 1) = index + 1 + k by omega]⟩
  induction es generalizing index seen with
  | nil => cases h
  | cons first rest ih =>
    simp only [collisionsFrom] at h
    split at h
    · exact later (ih h)
    · split at h
      · rcases List.mem_cons.mp h with rfl | h
        · exact ⟨rfl, 0, first, rfl, _, rfl⟩
        · exact later (ih h)
      · split at h
        · rcases List.mem_cons.mp h with rfl | h
          · exact ⟨isError_fragmentCollision _ _, 0, first, rfl, about_fragmentCollision _ _⟩
          · exact later (ih h)
        · exact later (ih h)

theorem entityIndex?_of_mem_unless {b : Bool} {code message name value : String} (hn : name ≠ "index")
    (h : d ∈ if b then [] else [invalidSetting code message name value]) : d.entityIndex? = none := by
  split at h
  · cases h
  · rw [List.mem_singleton.mp h]
    simp [Diagnostic.entityIndex?, invalidSetting, Value.field?, Value.get?, Value.sameKey, hn]

/-- A diagnostic of the settings is about no type. -/
theorem entityIndex?_of_mem_checkSettings (h : d ∈ checkSettings s) : d.entityIndex? = none := by
  simp only [checkSettings, List.mem_append] at h
  rcases h with (((h | h) | h) | h) | h
  · exact entityIndex?_of_mem_unless (by decide) h
  · exact entityIndex?_of_mem_unless (by decide) h
  · exact entityIndex?_of_mem_unless (by decide) h
  · exact entityIndex?_of_mem_unless (by decide) h
  · split at h
    · rw [List.mem_singleton.mp h]; rfl
    · cases h

/-! ## A whole validation -/

variable {entities : List Entity}

theorem mem_full :
    d ∈ full entities s ↔
      d ∈ checkSettings s ∨ d ∈ checkPaths entities s ∨ ∃ i e, entities[i]? = some e ∧ d ∈ checkEntity i e s := by
  simp only [full, List.mem_append, List.mem_flatMap, Prod.exists, List.mem_zipIdx_iff_getElem?, or_assoc]
  refine or_congr Iff.rfl (or_congr Iff.rfl ?_)
  constructor
  · rintro ⟨e, i, h⟩; exact ⟨i, e, h⟩
  · rintro ⟨i, e, h⟩; exact ⟨e, i, h⟩

/-- A diagnostic that has a position is about the type there. -/
theorem about_of_entityIndex? {v : Value} (h : d ∈ full entities s) (hv : d.entityIndex? = some v) :
    ∃ (i : Nat) (e : Entity), v = .int i ∧ entities[i]? = some e ∧ d.IsAbout i e := by
  rcases mem_full.mp h with h | h | ⟨i, e, hi, h⟩
  · rw [entityIndex?_of_mem_checkSettings h] at hv; cases hv
  · obtain ⟨-, k, e, hk, ha⟩ := about_of_mem_collisionsFrom h
    rw [Nat.zero_add] at ha
    rw [ha.entityIndex?, Option.some.injEq] at hv
    exact ⟨k, e, hv.symm, hk, ha⟩
  · have ha := about_of_mem_checkEntity h
    rw [ha.entityIndex?, Option.some.injEq] at hv
    exact ⟨i, e, hv.symm, hi, ha⟩

/-- Some error of the diagnostics is about the type at a position. -/
def Diagnostics.HasErrorAt (ds : Diagnostics) (i : Nat) : Prop :=
  ∃ d ∈ ds, d.isError = true ∧ d.entityIndex? = some (.int i)

theorem sameKey_int (m n : Int) : Value.sameKey (.int m) (.int n) = (m == n) := by
  simp [Value.sameKey, Value.whole?]

/-- Each of several positions is kept once. -/
theorem mem_distinct {vs : List Value} (hv : ∀ v ∈ vs, ∃ n : Nat, v = .int n) (seen : List Value)
    (hs : ∀ v ∈ seen, ∃ n : Nat, v = .int n) (v : Value) :
    v ∈ vs.foldl (fun seen i => if seen.any (Value.sameKey i) then seen else seen ++ [i]) seen ↔
      v ∈ seen ∨ v ∈ vs := by
  induction vs generalizing seen with
  | nil => simp
  | cons w vs ih =>
    obtain ⟨n, rfl⟩ := hv w List.mem_cons_self
    have hv' : ∀ v ∈ vs, ∃ n : Nat, v = .int n := fun v hm => hv v (List.mem_cons_of_mem _ hm)
    rw [List.foldl_cons]
    split
    · rename_i hany
      -- the position is there already, since whole numbers are the same key only if they are equal
      obtain ⟨u, hu, hk⟩ := List.any_eq_true.mp hany
      obtain ⟨m, rfl⟩ := hs u hu
      rw [sameKey_int, beq_iff_eq] at hk
      rw [ih hv' seen hs, List.mem_cons]
      constructor
      · exact Or.imp_right Or.inr
      · rintro (h | rfl | h)
        · exact Or.inl h
        · exact Or.inl (hk ▸ hu)
        · exact Or.inr h
    · have hs' : ∀ v ∈ seen ++ [Value.int n], ∃ n : Nat, v = .int n := by
        intro v hm
        rcases List.mem_append.mp hm with hm | hm
        · exact hs v hm
        · exact ⟨n, List.mem_singleton.mp hm⟩
      rw [ih hv' _ hs', List.mem_append, List.mem_singleton, List.mem_cons, or_assoc]

/-- The invalid positions are those that some error is about. -/
theorem mem_invalidIndexes : Value.int i ∈ (full entities s).invalidIndexes ↔ (full entities s).HasErrorAt i := by
  have hv : ∀ v ∈ (full entities s).errors.filterMap (·.entityIndex?), ∃ n : Nat, v = .int n := by
    intro v hm
    obtain ⟨d, hd, hi⟩ := List.mem_filterMap.mp hm
    obtain ⟨n, -, hn, -⟩ := about_of_entityIndex? (List.mem_filter.mp hd).1 hi
    exact ⟨n, hn⟩
  rw [Diagnostics.invalidIndexes, List.mem_mergeSort, mem_distinct hv [] (by simp)]
  simp only [List.not_mem_nil, false_or, List.mem_filterMap, Diagnostics.errors, List.mem_filter,
    Diagnostics.HasErrorAt, and_assoc]

/-- An invalid position is one of a type. -/
theorem lt_of_mem_invalidIndexes {v : Value} (h : v ∈ (full entities s).invalidIndexes) :
    ∃ i, v = .int (i : Nat) ∧ i < entities.length := by
  have hv : ∀ v ∈ (full entities s).errors.filterMap (·.entityIndex?),
      ∃ n : Nat, v = .int n ∧ n < entities.length := by
    intro v hm
    obtain ⟨d, hd, hi⟩ := List.mem_filterMap.mp hm
    obtain ⟨n, e, hn, he, -⟩ := about_of_entityIndex? (List.mem_filter.mp hd).1 hi
    exact ⟨n, hn, (List.getElem?_eq_some_iff.mp he).1⟩
  rw [Diagnostics.invalidIndexes, List.mem_mergeSort,
    mem_distinct (fun v hm => (hv v hm).imp fun _ h => h.1) [] (by simp)] at h
  exact hv v (h.resolve_left (List.not_mem_nil))

/-- A position is condemned by the errors about it. -/
theorem condemn_iff : (full entities s).condemn i = true ↔ (full entities s).HasErrorAt i := by
  rw [Diagnostics.condemn, List.any_eq_true]
  refine exists_congr fun d => and_congr_right fun hd => ?_
  rw [Diagnostic.condemns, Bool.and_eq_true]
  refine and_congr_right fun _ => ?_
  cases hi : d.entityIndex? with
  | none => simp
  | some v =>
    obtain ⟨n, e, rfl, -⟩ := about_of_entityIndex? hd hi
    simp [sameKey_int]

end CrudQueries.Validation
