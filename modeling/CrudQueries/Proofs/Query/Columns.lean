/-
  CrudQueries.Proofs.Query.Columns — which columns a type's statements write.

  An insert names its columns in the first of its two lists (`insertedColumns?`), an update and a patch name them on
  the left sides of their assignments (`assignedColumns?`). SQL does not tell apart names in which only the case of
  letters differs, and passes over blanks, so columns are compared by `columnKey`.

  Validation compares field names with the managed columns by their lower-case letters, but with each other as they
  are, and a newline at the end of a name hides it from both. So not every field list that passes gives different
  columns: it does exactly if its words differ in more than case and none of them is that of a managed column
  (`columns_differ_iff`). With `title` and `Title` an insert writes one column twice (`columns_written_twice`).
-/

import CrudQueries.Proofs.Query.Alignment
import CrudQueries.Proofs.Validation.FieldNames

namespace CrudQueries.Query

open CrudQueries.Validation (checkEntity inLowerCase isManaged word)

/-! ## Reading columns -/

/-- The columns of an insert. -/
def insertedColumns? (statement : String) : Option (List String) :=
  (lastGroups? statement).map fun lists => segments lists.first

/-- The column of an assignment: what stands before its first equals sign. -/
def assignedColumn (assignment : String) : String := String.ofList (assignment.toList.takeWhile (· != '='))

/-- The columns that an update of `table` assigns. The condition after the last assignment has its commas in
  brackets, so it goes with that assignment. -/
def assignedColumns? (table statement : String) : Option (List String) :=
  (statement.toList.dropPrefix? ("UPDATE " ++ table ++ " SET ").toList).map fun rest =>
    (segments (String.ofList rest)).map assignedColumn

/-- A column as SQL compares it: without the blanks around it, in lower case. -/
def columnKey (column : String) : String := Text.lower (String.ofList (Text.trimBlanks column.toList))

variable {fields : List String}

theorem insertedColumns?_insert (hne : fields ≠ []) (h : ∀ f ∈ fields, isListable f = true) (table : String) :
    insertedColumns? (Statement.insert.text (Joins.of fields) table) = some (fields ++ ["created", "modified", "deleted"]) := by
  have hcolumns := segments_join_append hne h .columns auditNames (by decide) unparted_auditNames
  rw [map_segment_columns] at hcolumns
  rw [insertedColumns?, lastGroups?_insert h, Option.map_some, hcolumns]
  rfl

theorem toList_assignment (f value : String) : (f ++ "=" ++ value).toList = f.toList ++ '=' :: value.toList := by
  simp [String.toList_append]

theorem assignedColumn_eq {f : String} (h : '=' ∉ f.toList) (value : String) : assignedColumn (f ++ "=" ++ value) = f := by
  have hname : ∀ c ∈ f.toList, (c != '=') = true := by
    intro c hc
    rw [bne_iff_ne]
    rintro rfl
    exact h hc
  rw [assignedColumn, toList_assignment, List.takeWhile_append_of_pos hname, List.takeWhile_cons_of_neg (by decide), List.append_nil,
    String.ofList_toList]

/-- A list of assignments to the fields, with one to the time of the change and then the condition. -/
theorem assignedColumns?_eq (hne : fields ≠ []) (h : ∀ f ∈ fields, isListable f = true) (hequals : ∀ f ∈ fields, '=' ∉ f.toList)
    {j : Join} {value : String → String} (hj : ∀ f, j.segment f = f ++ "=" ++ value f) (table : String) {condition : String}
    (hcondition : Unparted condition.toList) :
    assignedColumns? table ("UPDATE " ++ table ++ " SET " ++ j.text fields ++ ",modified=@Modified" ++ condition) =
      some (fields ++ ["modified"]) := by
  have hlast : Unparted ("modified=@Modified" ++ condition).toList := by
    rw [String.toList_append]
    exact (Unparted.of_plain (by decide) (by decide) (by decide)).append hcondition
  have hsegments := segments_join_append hne h j ["modified=@Modified" ++ condition] (by simp) fun p hp => by
    rw [List.mem_singleton.mp hp]
    exact hlast
  have htext : ("UPDATE " ++ table ++ " SET " ++ j.text fields ++ ",modified=@Modified" ++ condition).toList =
      ("UPDATE " ++ table ++ " SET ").toList ++
        (j.text fields ++ "," ++ ",".intercalate ["modified=@Modified" ++ condition]).toList := by
    simp [String.toList_append]
  have hfields : (fields.map j.segment).map assignedColumn = fields := by
    rw [List.map_map]
    refine (List.map_congr_left fun f hf => ?_).trans (List.map_id fields)
    rw [Function.comp_apply, hj, assignedColumn_eq (hequals f hf)]
    rfl
  have hmodified : assignedColumn ("modified=@Modified" ++ condition) = "modified" := by
    have hassigned := assignedColumn_eq (f := "modified") (by decide) ("@Modified" ++ condition)
    rwa [← String.append_assoc] at hassigned
  rw [assignedColumns?, htext, List.dropPrefix?_append_of_beq _ (beq_self_eq_true _), Option.map_some, String.ofList_toList,
    hsegments, List.map_append, hfields, List.map_singleton, hmodified]

/-- The condition under which a row is updated. -/
def updateCondition : String :=
  " WHERE deleted IS NULL AND id=@Id AND " ++ "(" ++ "@Version IS NULL OR modified=@Version" ++ ")"

theorem unparted_updateCondition : Unparted updateCondition.toList := by
  have hlive : Unparted " WHERE deleted IS NULL AND id=@Id AND ".toList := unparted_name (by decide)
  have hversion : Unparted "@Version IS NULL OR modified=@Version".toList := unparted_name (by decide)
  exact hlive.bracketed hversion.matched

theorem assignedColumns?_update (hne : fields ≠ []) (h : ∀ f ∈ fields, isListable f = true)
    (hequals : ∀ f ∈ fields, '=' ∉ f.toList) (table : String) :
    assignedColumns? table (Statement.update.text (Joins.of fields) table) = some (fields ++ ["modified"]) := by
  have htext : Statement.update.text (Joins.of fields) table =
      "UPDATE " ++ table ++ " SET " ++ Join.assignments.text fields ++ ",modified=@Modified" ++ updateCondition := by
    show updateRow _ _ = _
    unfold updateRow updateCondition versionGuard
    apply String.toList_inj.mp
    simp [Joins.of, String.toList_append]
  rw [htext]
  exact assignedColumns?_eq hne h hequals (fun _ => rfl) table unparted_updateCondition

theorem assignedColumns?_patch (hne : fields ≠ []) (h : ∀ f ∈ fields, isListable f = true)
    (hequals : ∀ f ∈ fields, '=' ∉ f.toList) (table : String) :
    assignedColumns? table (Statement.patch.text (Joins.of fields) table) = some (fields ++ ["modified"]) := by
  have htext : Statement.patch.text (Joins.of fields) table =
      "UPDATE " ++ table ++ " SET " ++ Join.keepingAssignments.text fields ++ ",modified=@Modified" ++
        (updateCondition ++ " AND " ++ "(" ++ Join.columns.text fields ++ ")" ++ " IS DISTINCT FROM " ++ "(" ++
          Join.keepingValues.text fields ++ ")") := by
    show patchRow _ _ _ _ = _
    unfold patchRow updateCondition versionGuard
    apply String.toList_inj.mp
    simp [Joins.of, String.toList_append]
  have hcondition : Unparted (updateCondition ++ " AND " ++ "(" ++ Join.columns.text fields ++ ")").toList := by
    refine Unparted.bracketed ?_ (matched_join h .columns)
    rw [String.toList_append]
    exact unparted_updateCondition.append (unparted_name (by decide))
  rw [htext]
  refine assignedColumns?_eq hne h hequals (fun _ => rfl) table (Unparted.bracketed ?_ (matched_join h .keepingValues))
  rw [String.toList_append]
  exact hcondition.append (unparted_name (by decide))

/-! ## Types without errors -/

variable {s : Settings} {e : Entity} {index : Nat}

theorem columnKey_identifier {f : String} (h : Text.isIdentifier f = true) : columnKey f = inLowerCase (word f) := by
  rw [columnKey, Validation.trimBlanks_identifier h, String.ofList_toList,
    Validation.inLowerCase_identifier (Validation.isIdentifier_word h)]

theorem isListable_identifier {f : String} (h : Text.isIdentifier f = true) : isListable f = true := by
  have hne : ∀ d, Text.isNameChar d = false → d ≠ '\n' → ∀ c ∈ f.toList, c ≠ d := by
    rintro d hd hn c hc rfl
    exact Text.not_mem_identifier h hd hn hc
  refine List.all_eq_true.mpr fun c hc => ?_
  have h1 := hne ',' (by decide) (by decide) c hc
  have h2 := hne '(' (by decide) (by decide) c hc
  have h3 := hne ')' (by decide) (by decide) c hc
  simp [h1, h2, h3]

theorem equals_not_mem_identifier {f : String} (h : Text.isIdentifier f = true) : '=' ∉ f.toList :=
  Text.not_mem_identifier h (by decide) (by decide)

theorem isManaged_eq_false_iff {f : String} : isManaged f = false ↔ inLowerCase f ∉ managedColumns := by
  rw [isManaged, ← Bool.not_eq_true, List.contains_iff_mem]

/-- No two columns are the same for SQL. -/
def Differ (columns : List String) : Prop := (columns.map columnKey).Nodup

instance (columns : List String) : Decidable (Differ columns) :=
  inferInstanceAs (Decidable (columns.map columnKey).Nodup)

theorem differ_append {columns more : List String} :
    Differ (columns ++ more) ↔ Differ columns ∧ Differ more ∧ ∀ c ∈ columns, ∀ d ∈ more, columnKey c ≠ columnKey d := by
  simp only [Differ, List.map_append, List.nodup_append, List.forall_mem_map]

/-- With the columns that the statements manage themselves, the fields differ exactly if they differ from each other
  and none is a managed column. -/
theorem differ_managed_iff :
    (Differ (fields ++ ["created", "modified", "deleted"]) ∧ Differ (fields ++ ["modified"]) ∧
        ∀ f ∈ fields, columnKey f ≠ columnKey "id") ↔
      Differ fields ∧ ∀ f ∈ fields, columnKey f ∉ managedColumns := by
  have hkeys : columnKey "id" = "id" ∧ columnKey "created" = "created" ∧ columnKey "modified" = "modified" ∧
      columnKey "deleted" = "deleted" := by decide +kernel
  have haudit : Differ ["created", "modified", "deleted"] := by decide +kernel
  have hmodified : Differ ["modified"] := by decide +kernel
  obtain ⟨hid, hcreated, hchanged, hdeleted⟩ := hkeys
  simp only [differ_append, haudit, hmodified, true_and, List.mem_cons, List.not_mem_nil, or_false, forall_eq_or_imp,
    forall_eq, hid, hcreated, hchanged, hdeleted, managedColumns, not_or]
  constructor
  · rintro ⟨⟨hdiffer, hnone⟩, -, hrow⟩
    exact ⟨hdiffer, fun f hf => ⟨hrow f hf, hnone f hf⟩⟩
  · rintro ⟨hdiffer, hnone⟩
    exact ⟨⟨hdiffer, fun f hf => (hnone f hf).2⟩, ⟨hdiffer, fun f hf => (hnone f hf).2.2.1⟩, fun f hf => (hnone f hf).1⟩

/-- A type without errors writes each column once exactly if the words of its fields differ in more than the case of
  letters and none is that of a managed column. -/
theorem columns_differ_iff (hc : s.coerceMalformed = false) (h : (checkEntity index e s).hasErrors = false)
    (hf : e.fields ≠ []) (table : String) :
    ∃ a, Artifacts.build e.typeName e.fields table = .ok a ∧
      insertedColumns? a.insert = some (e.fields ++ ["created", "modified", "deleted"]) ∧
      assignedColumns? table a.update = some (e.fields ++ ["modified"]) ∧
      assignedColumns? table a.patch = some (e.fields ++ ["modified"]) ∧
      ((Differ (e.fields ++ ["created", "modified", "deleted"]) ∧ Differ (e.fields ++ ["modified"]) ∧
          ∀ f ∈ e.fields, columnKey f ≠ columnKey "id") ↔
        (e.fields.map fun f => inLowerCase (word f)).Nodup ∧ ∀ f ∈ e.fields, isManaged (word f) = false) := by
  have hnames := Validation.accepted_fieldNames hc h
  have hlistable : ∀ f ∈ e.fields, isListable f = true := fun f hf => isListable_identifier (hnames f hf).1
  have hequals : ∀ f ∈ e.fields, '=' ∉ f.toList := fun f hf => equals_not_mem_identifier (hnames f hf).1
  have hkey : ∀ f ∈ e.fields, columnKey f = inLowerCase (word f) := fun f hf => columnKey_identifier (hnames f hf).1
  obtain ⟨a, ha⟩ := build_eq_ok e.typeName table hf
  have hinsert : a.insert = Statement.insert.text (Joins.of e.fields) table := (eq_of_build ha).2 .insert
  have hupdate : a.update = Statement.update.text (Joins.of e.fields) table := (eq_of_build ha).2 .update
  have hpatch : a.patch = Statement.patch.text (Joins.of e.fields) table := (eq_of_build ha).2 .patch
  refine ⟨a, ha, ?_, ?_, ?_, ?_⟩
  · rw [hinsert]
    exact insertedColumns?_insert hf hlistable table
  · rw [hupdate]
    exact assignedColumns?_update hf hlistable hequals table
  · rw [hpatch]
    exact assignedColumns?_patch hf hlistable hequals table
  · rw [differ_managed_iff, Differ, List.map_congr_left hkey]
    refine and_congr_right fun _ => forall₂_congr fun f hf => ?_
    rw [hkey f hf, isManaged_eq_false_iff]

/-- Names that differ in letters and digits. -/
theorem columns_differ_iff_prices :
    Settings.default.coerceMalformed = false ∧
      (checkEntity 0 ⟨"Item", some "items", ["price1", "Price2", "_id"], [], 1, none, none, none, none⟩ .default).hasErrors =
        false ∧
      ∃ a, Artifacts.build "Item" ["price1", "Price2", "_id"] "items" = .ok a ∧
        Differ (["price1", "Price2", "_id"] ++ ["created", "modified", "deleted"]) := by
  have haccepted : (checkEntity 0 ⟨"Item", some "items", ["price1", "Price2", "_id"], [], 1, none, none, none, none⟩
      .default).hasErrors = false := by decide +kernel
  obtain ⟨a, ha, -, -, -, hiff⟩ := columns_differ_iff rfl haccepted (by decide) "items"
  exact ⟨rfl, haccepted, a, ha, (hiff.mpr (by decide +kernel)).1⟩

/-- Two names that differ in the case of a letter pass, and then an insert writes one column twice. -/
theorem columns_written_twice :
    Settings.default.coerceMalformed = false ∧
      (checkEntity 0 ⟨"Item", some "items", ["title", "Title"], [], 1, none, none, none, none⟩ .default).hasErrors = false ∧
      ∃ a, Artifacts.build "Item" ["title", "Title"] "items" = .ok a ∧
        insertedColumns? a.insert = some ["title", "Title", "created", "modified", "deleted"] ∧
        ¬ Differ ["title", "Title", "created", "modified", "deleted"] :=
  ⟨rfl, by decide +kernel, _, rfl, by decide +kernel, by decide +kernel⟩

end CrudQueries.Query
