/-
  CrudQueries.Proofs.Query.Alignment — each field keeps its position.

  Every join has one segment for each field, in the order of the fields, as long as no name brings a comma or a
  bracket of its own (`isListable`); the comma of a `COALESCE(..)` stands in brackets and parts nothing. The
  statements only put such lists together: the columns of an insert and its values, the two sides that a patch
  compares, and the columns of a select agree position by position (`Aligned`). So the field list and the table can
  be read off the constants, and no two of them have the same constants (`segments_aligned`).
-/

import CrudQueries.Proofs.Query.Brackets
import CrudQueries.Query.Artifacts

namespace CrudQueries.Query

/-- A name without commas and brackets. -/
def isListable (name : String) : Bool := name.toList.all fun c => c != ',' && c != '(' && c != ')'

/-! ## The segment of one field -/

theorem unparted_name {name : String} (h : isListable name = true) : Unparted name.toList := by
  have hall := List.all_eq_true.mp h
  apply Unparted.of_plain
  · intro hm
    exact absurd (hall _ hm) (by decide)
  · intro hm
    exact absurd (hall _ hm) (by decide)
  · intro hm
    exact absurd (hall _ hm) (by decide)

variable {f : String}

theorem unparted_parameter (h : isListable f = true) : Unparted (parameter f).toList := by
  rw [parameter, String.toList_append]
  exact .plain (by decide) (by decide) (by decide) (unparted_name h)

/-- The comma of a `COALESCE(..)` stands in its brackets. -/
theorem unparted_keepingValue (h : isListable f = true) : Unparted (keepingValue f).toList := by
  have htext : keepingValue f = "COALESCE" ++ "(" ++ (parameter f ++ "," ++ f) ++ ")" := by
    apply String.toList_inj.mp
    simp [keepingValue, String.toList_append]
  have hinside : Matched (parameter f ++ "," ++ f).toList := by
    rw [String.toList_append, String.toList_append, List.append_assoc]
    exact (unparted_parameter h).matched.append (unparted_name h).matched.comma
  rw [htext]
  exact (Unparted.of_plain (by decide) (by decide) (by decide)).bracketed hinside

/-- A name and what is assigned to it. -/
theorem unparted_assignment {value : String} (h : isListable f = true) (hv : Unparted value.toList) :
    Unparted (f ++ "=" ++ value).toList := by
  rw [String.toList_append, String.toList_append, List.append_assoc]
  exact (unparted_name h).append (.plain (by decide) (by decide) (by decide) hv)

theorem unparted_segment (h : isListable f = true) (j : Join) : Unparted (j.segment f).toList := by
  cases j with
  | columns => exact unparted_name h
  | parameters => exact unparted_parameter h
  | assignments => exact unparted_assignment h (unparted_parameter h)
  | keepingAssignments => exact unparted_assignment h (unparted_keepingValue h)
  | keepingValues => exact unparted_keepingValue h

/-! ## Lists -/

variable {fields : List String}

theorem unparted_segments (h : ∀ f ∈ fields, isListable f = true) (j : Join) :
    ∀ p ∈ fields.map j.segment, Unparted p.toList := by
  intro p hp
  obtain ⟨f, hf, rfl⟩ := List.mem_map.mp hp
  exact unparted_segment (h f hf) j

theorem segments_join (hne : fields ≠ []) (h : ∀ f ∈ fields, isListable f = true) (j : Join) :
    segments (j.text fields) = fields.map j.segment :=
  segments_intercalate (by simpa using hne) (unparted_segments h j)

/-- A join with more entries after it is a list of them all. -/
theorem segments_join_append (hne : fields ≠ []) (h : ∀ f ∈ fields, isListable f = true) (j : Join) (more : List String)
    (hmore : more ≠ []) (hplain : ∀ p ∈ more, Unparted p.toList) :
    segments (j.text fields ++ "," ++ ",".intercalate more) = fields.map j.segment ++ more := by
  rw [Join.text, ← intercalate_append (by simpa using hne) hmore]
  refine segments_intercalate (by simp [hne]) fun p hp => ?_
  rcases List.mem_append.mp hp with hp | hp
  · exact unparted_segments h j p hp
  · exact hplain p hp

theorem matched_join (h : ∀ f ∈ fields, isListable f = true) (j : Join) : Matched (j.text fields).toList :=
  matched_intercalate fun p hp => (unparted_segments h j p hp).matched

theorem matched_join_append (h : ∀ f ∈ fields, isListable f = true) (j : Join) (more : List String)
    (hplain : ∀ p ∈ more, Unparted p.toList) : Matched (j.text fields ++ "," ++ ",".intercalate more).toList := by
  have hmore : Matched (",".intercalate more).toList := matched_intercalate fun p hp => (hplain p hp).matched
  rw [String.toList_append, String.toList_append, List.append_assoc]
  exact (matched_join h j).append hmore.comma

/-! ## Statements -/

/-- What the position of a field is in the SQL over it: in each join, in the columns and the values of an insert,
  on the two sides that a patch compares, and among the columns of the selects. -/
structure Aligned (fields : List String) (table : String) (a : Artifacts) : Prop where
  columns : segments a.joins.columns = fields
  parameters : segments a.joins.parameters = fields.map fun f => "@" ++ f
  assignments : segments a.joins.assignments = fields.map fun f => f ++ "=@" ++ f
  keepingAssignments : segments a.joins.keepingAssignments =
    fields.map fun f => f ++ "=COALESCE(@" ++ f ++ "," ++ f ++ ")"
  keepingValues : segments a.joins.keepingValues = fields.map fun f => "COALESCE(@" ++ f ++ "," ++ f ++ ")"
  insert : ∃ columns values, lastGroups? a.insert = some ⟨columns, " VALUES ", values, " RETURNING id"⟩ ∧
    segments columns = fields ++ ["created", "modified", "deleted"] ∧
    segments values = (fields.map fun f => "@" ++ f) ++ ["@Created", "@Modified", "@Deleted"]
  patch : ∃ stored kept, lastGroups? a.patch = some ⟨stored, " IS DISTINCT FROM ", kept, ""⟩ ∧
    segments stored = fields ∧
    segments kept = (segments stored).map fun f => "COALESCE(@" ++ f ++ "," ++ f ++ ")"
  selects : ∃ selected,
    a.selectPage = "SELECT " ++ selected ++ " FROM " ++ table ++ " WHERE deleted IS NULL LIMIT @Num OFFSET @Start" ∧
    a.selectRow = "SELECT " ++ selected ++ " FROM " ++ table ++ " WHERE deleted IS NULL AND id=@Id" ∧
    segments selected = ["id"] ++ fields ++ ["created", "modified", "deleted"]

theorem map_segment_columns (fields : List String) : fields.map Join.columns.segment = fields :=
  List.map_id fields

theorem segment_assignments : Join.assignments.segment = fun f => f ++ "=@" ++ f := by
  funext f
  apply String.toList_inj.mp
  simp [Join.segment, parameter, String.toList_append]

theorem segment_keepingAssignments :
    Join.keepingAssignments.segment = fun f => f ++ "=COALESCE(@" ++ f ++ "," ++ f ++ ")" := by
  funext f
  apply String.toList_inj.mp
  simp [Join.segment, keepingValue, parameter, String.toList_append]

theorem segment_keepingValues : Join.keepingValues.segment = fun f => "COALESCE(@" ++ f ++ "," ++ f ++ ")" := by
  funext f
  apply String.toList_inj.mp
  simp [Join.segment, keepingValue, parameter, String.toList_append]

/-- The columns that note times, as a list. -/
def auditNames : List String := ["created", "modified", "deleted"]

/-- The parameters of these columns. -/
def auditParameters : List String := ["@Created", "@Modified", "@Deleted"]

theorem unparted_auditNames : ∀ p ∈ auditNames, Unparted p.toList := fun p hp =>
  unparted_name ((by decide : ∀ p ∈ auditNames, isListable p = true) p hp)

theorem unparted_auditParameters : ∀ p ∈ auditParameters, Unparted p.toList := fun p hp =>
  unparted_name ((by decide : ∀ p ∈ auditParameters, isListable p = true) p hp)

theorem intercalate_auditNames : ",".intercalate auditNames = auditColumns := by decide

theorem intercalate_auditParameters : ",".intercalate auditParameters = "@Created,@Modified,@Deleted" := by decide

/-- The two lists of an insert. -/
theorem lastGroups?_insert (h : ∀ f ∈ fields, isListable f = true) (table : String) :
    lastGroups? (Statement.insert.text (Joins.of fields) table) =
      some ⟨Join.columns.text fields ++ "," ++ ",".intercalate auditNames, " VALUES ",
        Join.parameters.text fields ++ "," ++ ",".intercalate auditParameters, " RETURNING id"⟩ := by
  have hcolumns := matched_join_append h .columns auditNames unparted_auditNames
  have hvalues := matched_join_append h .parameters auditParameters unparted_auditParameters
  have hbetween : ')' ∉ " VALUES ".toList := by decide
  have hafter : ')' ∉ " RETURNING id".toList := by decide
  have htext : Statement.insert.text (Joins.of fields) table = ("INSERT INTO " ++ table ++ " ") ++ "(" ++
      (Join.columns.text fields ++ "," ++ ",".intercalate auditNames) ++ ")" ++ " VALUES " ++ "(" ++
      (Join.parameters.text fields ++ "," ++ ",".intercalate auditParameters) ++ ")" ++ " RETURNING id" := by
    rw [intercalate_auditNames, intercalate_auditParameters]
    show insertRow _ _ _ = _
    unfold insertRow
    apply String.toList_inj.mp
    simp [Joins.of, String.toList_append]
  rw [htext]
  exact lastGroups?_eq hcolumns hvalues hbetween hafter _

/-- The two sides that a patch compares. -/
theorem lastGroups?_patch (h : ∀ f ∈ fields, isListable f = true) (table : String) :
    lastGroups? (Statement.patch.text (Joins.of fields) table) =
      some ⟨Join.columns.text fields, " IS DISTINCT FROM ", Join.keepingValues.text fields, ""⟩ := by
  have hbetween : ')' ∉ " IS DISTINCT FROM ".toList := by decide
  have hafter : ')' ∉ "".toList := by decide
  have htext : Statement.patch.text (Joins.of fields) table = ("UPDATE " ++ table ++ " SET " ++
      Join.keepingAssignments.text fields ++ ",modified=@Modified WHERE deleted IS NULL AND id=@Id AND " ++
      versionGuard ++ " AND ") ++ "(" ++ Join.columns.text fields ++ ")" ++ " IS DISTINCT FROM " ++ "(" ++
      Join.keepingValues.text fields ++ ")" ++ "" := by
    show patchRow _ _ _ _ = _
    unfold patchRow
    apply String.toList_inj.mp
    simp [Joins.of, String.toList_append]
  rw [htext]
  exact lastGroups?_eq (matched_join h .columns) (matched_join h .keepingValues) hbetween hafter _

/-- The columns of the selects. -/
theorem segments_selected (hne : fields ≠ []) (h : ∀ f ∈ fields, isListable f = true) :
    segments ("id," ++ Join.columns.text fields ++ "," ++ ",".intercalate auditNames) = ["id"] ++ fields ++ auditNames := by
  have hlist : ",".intercalate (["id"] ++ fields ++ auditNames) =
      "id," ++ Join.columns.text fields ++ "," ++ ",".intercalate auditNames := by
    rw [intercalate_append (by simp) (by simp [auditNames]), intercalate_append (by simp) hne]
    rw [Join.text, map_segment_columns]
    simp
  rw [← hlist]
  refine segments_intercalate (by simp) fun p hp => ?_
  rcases List.mem_append.mp hp with hp | hp
  · rcases List.mem_append.mp hp with hp | hp
    · rw [List.mem_singleton.mp hp]
      exact unparted_name (by decide)
    · exact unparted_name (h p hp)
  · exact unparted_auditNames p hp

theorem build_eq_ok (typeName table : String) (hne : fields ≠ []) : ∃ a, Artifacts.build typeName fields table = .ok a := by
  rw [Artifacts.build, if_neg (by simpa using hne)]
  exact ⟨_, rfl⟩

/-- What is built holds the joins, and each statement over them. -/
theorem eq_of_build {typeName table : String} {a : Artifacts} (h : Artifacts.build typeName fields table = .ok a) :
    a.joins = Joins.of fields ∧ ∀ s, a.statement s = s.text (Joins.of fields) table := by
  rw [Artifacts.build] at h
  split at h
  · cases h
  · cases h
    refine ⟨rfl, fun s => ?_⟩
    cases s <;> rfl

theorem aligned_build (hne : fields ≠ []) (h : ∀ f ∈ fields, isListable f = true) {typeName table : String} {a : Artifacts}
    (ha : Artifacts.build typeName fields table = .ok a) : Aligned fields table a := by
  rw [Artifacts.build, if_neg (by simpa using hne)] at ha
  cases ha
  have hcolumns := segments_join hne h .columns
  have hkept := segments_join hne h .keepingValues
  rw [map_segment_columns] at hcolumns
  rw [segment_keepingValues] at hkept
  constructor
  case columns => exact hcolumns
  case parameters => exact segments_join hne h .parameters
  case assignments =>
    rw [← segment_assignments]
    exact segments_join hne h .assignments
  case keepingAssignments =>
    rw [← segment_keepingAssignments]
    exact segments_join hne h .keepingAssignments
  case keepingValues => exact hkept
  case insert =>
    -- The audit columns follow those of the fields.
    refine ⟨_, _, lastGroups?_insert h table, ?_, ?_⟩
    · rw [segments_join_append hne h .columns auditNames (by decide) unparted_auditNames, map_segment_columns]
      rfl
    · exact segments_join_append hne h .parameters auditParameters (by decide) unparted_auditParameters
  case patch =>
    refine ⟨_, _, lastGroups?_patch h table, hcolumns, ?_⟩
    rw [hcolumns]
    exact hkept
  case selects =>
    refine ⟨"id," ++ Join.columns.text fields ++ "," ++ ",".intercalate auditNames, ?_, ?_, segments_selected hne h⟩
    · show selectPage _ _ = _
      unfold selectPage
      rw [intercalate_auditNames]
      apply String.toList_inj.mp
      simp [Joins.of, String.toList_append]
    · show selectRow _ _ = _
      unfold selectRow
      rw [intercalate_auditNames]
      apply String.toList_inj.mp
      simp [Joins.of, String.toList_append]

/-- The statement that removes a row names the table between texts that do not change. -/
theorem table_of_delete {table table' : String} (h : deleteRow table = deleteRow table') : table = table' := by
  unfold deleteRow at h
  exact (String.append_right_inj _).mp ((String.append_left_inj _).mp h)

/-- Equal constants come from equal fields and tables. -/
theorem eq_of_constants {fields' : List String} {typeName typeName' table table' : String} {a a' : Artifacts}
    (hne : fields ≠ []) (h : ∀ f ∈ fields, isListable f = true) (ha : Artifacts.build typeName fields table = .ok a)
    (hne' : fields' ≠ []) (h' : ∀ f ∈ fields', isListable f = true)
    (ha' : Artifacts.build typeName' fields' table' = .ok a') (heq : a'.constants = a.constants) :
    fields' = fields ∧ table' = table := by
  have hcolumns : a'.joins.columns = a.joins.columns :=
    (Prod.mk.inj (Option.some.inj (congrArg (·[0]?) heq))).2
  have hdelete : a'.delete = a.delete :=
    (Prod.mk.inj (Option.some.inj (congrArg (·[10]?) heq))).2
  constructor
  · rw [← (aligned_build hne h ha).columns, ← (aligned_build hne' h' ha').columns, hcolumns]
  · have htext : a.delete = deleteRow table := (eq_of_build ha).2 .delete
    have htext' : a'.delete = deleteRow table' := (eq_of_build ha').2 .delete
    rw [htext, htext'] at hdelete
    exact table_of_delete hdelete

/-- Joins and statements keep each field at its position, and their texts tell the fields and the table. -/
theorem segments_aligned (hne : fields ≠ []) (h : ∀ f ∈ fields, isListable f = true) (typeName table : String) :
    ∃ a, Artifacts.build typeName fields table = .ok a ∧ Aligned fields table a ∧
      ∀ typeName' fields' table' a', fields' ≠ [] → (∀ f ∈ fields', isListable f = true) →
        Artifacts.build typeName' fields' table' = .ok a' → a'.constants = a.constants →
          fields' = fields ∧ table' = table := by
  obtain ⟨a, ha⟩ := build_eq_ok typeName table hne
  refine ⟨a, ha, aligned_build hne h ha, ?_⟩
  intro typeName' fields' table' a' hne' h' ha' heq
  exact eq_of_constants hne h ha hne' h' ha' heq

/-- Empty names and spaces, over a table with brackets of its own. -/
theorem segments_aligned_empty : ∃ a, Artifacts.build "Item" ["title", "", " IS DISTINCT FROM "] ") VALUES (" = .ok a ∧
    Aligned ["title", "", " IS DISTINCT FROM "] ") VALUES (" a ∧
      ∀ typeName' fields' table' a', fields' ≠ [] → (∀ f ∈ fields', isListable f = true) →
        Artifacts.build typeName' fields' table' = .ok a' → a'.constants = a.constants →
          fields' = ["title", "", " IS DISTINCT FROM "] ∧ table' = ") VALUES (" :=
  segments_aligned (by decide) (by decide) "Item" ") VALUES ("

end CrudQueries.Query
