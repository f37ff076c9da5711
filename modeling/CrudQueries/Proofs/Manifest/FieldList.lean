/-
  CrudQueries.Proofs.Manifest.FieldList — field lists of sources and of manifests.

  What a list of values declares is one list of names and one of malformed positions (`FieldList`,
  `FieldList.unique`). Arguments of a marker declare what the values do that they stand for
  (`fieldList_entityOf`), and so does the field list of a manifest's item, whatever else the item says: its own
  malformed positions count for nothing, and no field list makes it refused (`entityOfItem_fields`). So
  the two entities are alike in all that their field lists are checked for (`marks_checkFields`), and a value
  that is no text condemns both unless it is coerced (`Condemned`). `field_lists_agree` puts this together.
-/

import CrudQueries.Manifest.Content
import CrudQueries.Proofs.Data.Mapping
import CrudQueries.Proofs.Discovery.Marked
import CrudQueries.Proofs.Record.Checked
import CrudQueries.Proofs.Validation.Sound

namespace CrudQueries.Manifest

open CrudQueries.Data (Value)
open CrudQueries.Discovery (Origin entityOf fieldNames finding? mem_missingFrom missingFrom missingPositions scan
  scan_of_read)
open CrudQueries.Source (ClassDef Expr Stmt read?)
open CrudQueries.Validation (Diagnostics checkFields full)
open Record

/-! ## What values declare -/

/-- The names and malformed positions that a list of values declares: a text is a name, and anything else is
  the empty name at a malformed position. -/
structure FieldList (values : List Value) (names : List String) (malformed : List Int) : Prop where
  length : names.length = values.length
  name : ∀ (i : Nat) (v : Value), values[i]? = some v → names[i]? = some (v.text?.getD "")
  ascending : malformed.Pairwise (· < ·)
  positions : ∀ p, p ∈ malformed ↔ ∃ i : Nat, p = i ∧ ∃ v, values[i]? = some v ∧ v.text? = none

theorem FieldList.unique {values : List Value} {names names' : List String} {malformed malformed' : List Int}
    (h : FieldList values names malformed) (h' : FieldList values names' malformed') :
    names' = names ∧ malformed' = malformed := by
  constructor
  · refine List.ext_getElem? fun i => ?_
    cases hi : values[i]? with
    | some v => rw [h.name i v hi, h'.name i v hi]
    | none =>
      have hlen := List.getElem?_eq_none_iff.mp hi
      rw [List.getElem?_eq_none (by rw [h'.length]; exact hlen), List.getElem?_eq_none (by rw [h.length]; exact hlen)]
  · have hperm : malformed'.Perm malformed := by
      refine (List.perm_ext_iff_of_nodup ?_ ?_).mpr fun p => ?_
      · exact h'.ascending.imp Int.ne_of_lt
      · exact h.ascending.imp Int.ne_of_lt
      · rw [h.positions, h'.positions]
    exact hperm.eq_of_pairwise (fun a b _ _ hab hba => absurd hab (Int.lt_asymm hba)) h'.ascending h.ascending

theorem pairwise_missingFrom (first : Nat) (texts : List (Option String)) :
    (missingFrom first texts).Pairwise (· < ·) := by
  induction texts generalizing first with
  | nil => exact .nil
  | cons text texts ih =>
    cases text with
    | some s => exact ih (first + 1)
    | none =>
      refine List.pairwise_cons.mpr ⟨fun i hi => ?_, ih (first + 1)⟩
      obtain ⟨k, rfl, -⟩ := mem_missingFrom.mp hi
      omega

/-- Names and positions are taken apart as they should be. -/
theorem fieldList_of_texts (values : List Value) : FieldList values (fieldNames (values.map (·.text?)))
    ((missingPositions (values.map (·.text?))).map Int.ofNat) where
  length := by simp [fieldNames]
  name i v hv := by simp [fieldNames, hv]
  ascending := List.pairwise_map.mpr ((pairwise_missingFrom 0 _).imp Int.ofNat_lt.mpr)
  positions p := by
    simp only [List.mem_map, missingPositions, mem_missingFrom, Nat.zero_add, List.getElem?_map, Option.map_eq_some_iff]
    constructor
    · rintro ⟨n, ⟨i, rfl, v, hv, ht⟩, rfl⟩
      exact ⟨n, rfl, v, hv, ht⟩
    · rintro ⟨i, rfl, v, hv, ht⟩
      exact ⟨i, ⟨i, rfl, v, hv, ht⟩, rfl⟩

/-! ## Arguments of a marker -/

/-- A literal of a source, and its value. Of those that are no texts only that is seen. -/
inductive StandsFor : Expr → Value → Prop
  | text (s : String) : StandsFor (.text s) (.text s)
  | other {e : Expr} {v : Value} (he : e.text? = none) (hv : v.text? = none) : StandsFor e v

theorem StandsFor.text?_eq {e : Expr} {v : Value} (h : StandsFor e v) : e.text? = v.text? := by
  cases h with
  | text s => rfl
  | other he hv => rw [he, hv]

variable {marker : String} {origin : Origin} {c : ClassDef} {args : List Expr} {values : List Value}

/-- The entity of a marked class has the field list that the marker's arguments stand for. -/
theorem fieldList_entityOf {line : Nat} {callee : Expr} {hasKeywords : Bool} {count : Nat}
    (h : args.Forall₂ StandsFor values) :
    FieldList values (entityOf origin c (.call line callee args hasKeywords) count).fields
      (entityOf origin c (.call line callee args hasKeywords) count).malformed := by
  have htexts : args.map Expr.text? = values.map (·.text?) := by
    refine List.forall₂_eq_eq_eq ▸ ?_
    rw [List.forall₂_map_left_iff, List.forall₂_map_right_iff]
    exact h.imp fun _ _ he => he.text?_eq
  have hlist := fieldList_of_texts values
  rw [← htexts] at hlist
  exact hlist

/-! ## Items of a manifest -/

/-- What the entries of an accepted entity say. -/
structure ReadFrom (entries : Mapping) (e : Entity) : Prop where
  typeName : required Entity.typeNameField Check.filledText entries = .ok e.typeName
  table : optional Entity.tableField none (Check.orNull Check.text) entries = .ok e.table
  fields : optional Entity.fieldsField [] Entity.checkFields entries = .ok e.fields
  malformed : optional (.of "malformed_field_indexes") [] (Check.sequence .tuple Check.whole) entries = .ok e.malformed
  markerCount : optional (.of "marker_count") 1 (Check.wholeFrom 1) entries = .ok e.markerCount
  sourceFile : optional (.of "source_file") none (Check.orNull Check.text) entries = .ok e.sourceFile
  line : optional (.of "line") none (Check.orNull (Check.wholeFrom 1)) entries = .ok e.line
  modulePath : optional (.of "module") none (Check.orNull Check.text) entries = .ok e.modulePath
  package : optional (.of "package") none (Check.orNull Check.text) entries = .ok e.package
  named : ∀ entry ∈ entries, Gives Entity.recordFields entries entry.1

theorem ofEntries_eq_ok {entries : Mapping} {e : Entity} : Entity.ofEntries entries = .ok e ↔ ReadFrom entries e := by
  rw [Entity.ofEntries, closed_eq_ok]
  simp only [Checked.app_eq_ok, Checked.fmap_eq_ok]
  constructor
  · rintro ⟨⟨_, ⟨_, ⟨_, ⟨_, ⟨_, ⟨_, ⟨_, ⟨_, ⟨_, h1, rfl⟩, _, h2, rfl⟩, _, h3, rfl⟩, _, h4, rfl⟩, _, h5, rfl⟩,
      _, h6, rfl⟩, _, h7, rfl⟩, _, h8, rfl⟩, _, h9, rfl⟩, h10⟩
    exact ⟨h1, h2, h3, h4, h5, h6, h7, h8, h9, h10⟩
  · rintro ⟨h1, h2, h3, h4, h5, h6, h7, h8, h9, h10⟩
    exact ⟨⟨_, ⟨_, ⟨_, ⟨_, ⟨_, ⟨_, ⟨_, ⟨_, ⟨_, h1, rfl⟩, _, h2, rfl⟩, _, h3, rfl⟩, _, h4, rfl⟩, _, h5, rfl⟩,
      _, h6, rfl⟩, _, h7, rfl⟩, _, h8, rfl⟩, _, h9, rfl⟩, h10⟩

/-- Two mappings with the same keys in the same order, and the same values but for a field list. -/
structure Alike (a b : Mapping) : Prop where
  keys : a.map (·.1) = b.map (·.1)
  fields : (Value.field? b "fields").isSome
  malformed : (Value.field? b "malformed_field_indexes").isSome
  others : ∀ name, name ≠ "fields" → name ≠ "malformed_field_indexes" → Value.field? a name = Value.field? b name

namespace Alike

variable {a b : Mapping}

theorem find?_eq (h : Alike a b) {field : FieldName} (hlabel : field.label ∉ ["fields", "malformed_field_indexes"])
    (hname : field.name ∉ ["fields", "malformed_field_indexes"]) : field.find? a = field.find? b := by
  simp only [List.mem_cons, List.not_mem_nil, or_false, not_or] at hlabel hname
  unfold FieldName.find?
  rw [h.others _ hlabel.1 hlabel.2, h.others _ hname.1 hname.2]

theorem required_eq (h : Alike a b) {α : Type} {field : FieldName} {check : Check α}
    (hlabel : field.label ∉ ["fields", "malformed_field_indexes"])
    (hname : field.name ∉ ["fields", "malformed_field_indexes"]) : required field check a = required field check b := by
  unfold required
  rw [h.find?_eq hlabel hname]

theorem optional_eq (h : Alike a b) {α : Type} {field : FieldName} {default : α} {check : Check α}
    (hlabel : field.label ∉ ["fields", "malformed_field_indexes"])
    (hname : field.name ∉ ["fields", "malformed_field_indexes"]) :
    optional field default check a = optional field default check b := by
  unfold Record.optional
  rw [h.find?_eq hlabel hname]

/-- They give the fields of an entity under the same names. -/
theorem gives (h : Alike a b) (hfields : (Value.field? a "fields").isSome)
    (hmalformed : (Value.field? a "malformed_field_indexes").isSome) {key : Value}
    (hb : Gives Entity.recordFields b key) : Gives Entity.recordFields a key := by
  obtain ⟨field, hf, name, v, hfind, hkey⟩ := hb
  by_cases hlabel : field.label ∈ ["fields", "malformed_field_indexes"]
  · have hfound : ∀ c : Mapping, (Value.field? c "fields").isSome → (Value.field? c "malformed_field_indexes").isSome →
        ∃ w, field.find? c = some (field.label, w) := by
      intro c hcf hcm
      have hc : (Value.field? c field.label).isSome := by
        simp only [List.mem_cons, List.not_mem_nil, or_false] at hlabel
        rcases hlabel with hl | hl
        · rwa [hl]
        · rwa [hl]
      obtain ⟨w, hw⟩ := Option.isSome_iff_exists.mp hc
      exact ⟨w, by rw [FieldName.find?, hw]⟩
    obtain ⟨w, hw⟩ := hfound a hfields hmalformed
    obtain ⟨w', hw'⟩ := hfound b h.fields h.malformed
    have hname : field.label = name := by
      rw [hw'] at hfind
      exact congrArg Prod.fst (Option.some.inj hfind)
    exact ⟨field, hf, field.label, w, hw, hkey.trans (congrArg _ hname.symm)⟩
  · -- A field with another label has another name too.
    have hown : ∀ field ∈ Entity.recordFields, field.label ∉ ["fields", "malformed_field_indexes"] →
        field.name ∉ ["fields", "malformed_field_indexes"] := by decide
    exact ⟨field, hf, name, v, (h.find?_eq hlabel (hown field hf hlabel)).trans hfind, hkey⟩

end Alike

theorem checkFields_texts (names : List String) : Entity.checkFields (.list (names.map .text)) = .ok names := by
  have hmembers : Check.members Check.text (names.map .text) = .ok names := by
    rw [Check.members_eq_ok, List.forall₂_map_left_iff]
    exact List.forall₂_same.mpr fun _ _ => rfl
  exact hmembers

theorem checkPositions (positions : List Nat) :
    Check.sequence .tuple Check.whole (.list (positions.map fun (n : Nat) => .int n)) =
      .ok (positions.map Int.ofNat) := by
  have hmembers : Check.members Check.whole (positions.map fun (n : Nat) => Value.int n) =
      .ok (positions.map Int.ofNat) := by
    rw [Check.members_eq_ok, List.forall₂_map_left_iff, List.forall₂_map_right_iff]
    exact List.forall₂_same.mpr fun _ _ => rfl
  exact hmembers

/-- An entity with another field list is one. -/
theorem ReadFrom.of_alike {a b : Mapping} (h : Alike a b) {e : Entity} (hb : ReadFrom b e) {names : List String}
    {positions : List Nat} (hfields : Value.field? a "fields" = some (.list (names.map .text)))
    (hmalformed : Value.field? a "malformed_field_indexes" = some (.list (positions.map fun (n : Nat) => .int n))) :
    ReadFrom a { e with fields := names, malformed := positions.map Int.ofNat } where
  typeName := (h.required_eq (by decide) (by decide)).trans hb.typeName
  table := (h.optional_eq (by decide) (by decide)).trans hb.table
  fields := by
    rw [optional_eq_ok, FieldName.value?_eq, show Entity.fieldsField.label = "fields" from rfl, hfields]
    exact checkFields_texts names
  malformed := by
    rw [optional_eq_ok, FieldName.value?_of, hmalformed]
    exact checkPositions positions
  markerCount := (h.optional_eq (by decide) (by decide)).trans hb.markerCount
  sourceFile := (h.optional_eq (by decide) (by decide)).trans hb.sourceFile
  line := (h.optional_eq (by decide) (by decide)).trans hb.line
  modulePath := (h.optional_eq (by decide) (by decide)).trans hb.modulePath
  package := (h.optional_eq (by decide) (by decide)).trans hb.package
  named entry he := by
    have hkey : entry.1 ∈ b.map (·.1) := h.keys ▸ List.mem_map_of_mem he
    obtain ⟨other, hother, heq⟩ := List.mem_map.mp hkey
    exact h.gives (by rw [hfields]; rfl) (by rw [hmalformed]; rfl) (heq ▸ hb.named other hother)

/-! ### Normal items -/

variable {sourceFile : Option String} {entries others : Mapping}

/-- A normal item before its source file is looked at. -/
def partedItem (entries : Mapping) (texts : List (Option String)) : Mapping :=
  Value.put
    (Value.put (Value.erase entries (.text "fields")) (.text "fields") (.list ((fieldNames texts).map .text)))
    (.text "malformed_field_indexes") (.list ((missingPositions texts).map fun (n : Nat) => .int n))

theorem normalItem_eq (sourceFile : Option String) (entries : Mapping) (values : List Value) :
    normalItem sourceFile entries values =
      match Value.field? entries "source_file" with
      | some _ => partedItem entries (values.map (·.text?))
      | none => Value.put (partedItem entries (values.map (·.text?))) (.text "source_file")
          ((sourceFile.map Value.text).getD .null) := by
  have hsource : Value.field? (partedItem entries (values.map (·.text?))) "source_file" =
      Value.field? entries "source_file" := by
    unfold partedItem
    rw [Value.field?_put_of_ne (by simp), Value.field?_put_of_ne (by simp), Value.field?_erase_of_ne (by simp)]
  rw [← hsource]
  rfl

theorem field?_normalItem_fields (values : List Value) : Value.field? (normalItem sourceFile entries values) "fields" =
    some (.list ((fieldNames (values.map (·.text?))).map .text)) := by
  have hparted : Value.field? (partedItem entries (values.map (·.text?))) "fields" =
      some (.list ((fieldNames (values.map (·.text?))).map .text)) := by
    rw [partedItem, Value.field?_put_of_ne (by simp), Value.field?_put_self]
  rw [normalItem_eq]
  split
  · exact hparted
  · rw [Value.field?_put_of_ne (by simp), hparted]

theorem field?_normalItem_malformed (values : List Value) :
    Value.field? (normalItem sourceFile entries values) "malformed_field_indexes" =
      some (.list ((missingPositions (values.map (·.text?))).map fun (n : Nat) => .int n)) := by
  have hparted : Value.field? (partedItem entries (values.map (·.text?))) "malformed_field_indexes" =
      some (.list ((missingPositions (values.map (·.text?))).map fun (n : Nat) => .int n)) := by
    rw [partedItem, Value.field?_put_self]
  rw [normalItem_eq]
  split
  · exact hparted
  · rw [Value.field?_put_of_ne (by simp), hparted]

/-- Items that differ in their field lists only are so when they are normal. -/
theorem alike_normalItem (hkeys : entries.map (·.1) = others.map (·.1))
    (hothers : ∀ name, name ≠ "fields" → Value.field? entries name = Value.field? others name)
    (values values' : List Value) :
    Alike (normalItem sourceFile entries values) (normalItem sourceFile others values') := by
  have hpartedKeys : (partedItem entries (values.map (·.text?))).map (·.1) =
      (partedItem others (values'.map (·.text?))).map (·.1) :=
    Value.keys_put (Value.keys_put (Value.keys_erase hkeys _) _ _ _) _ _ _
  have hparted : ∀ name, name ≠ "fields" → name ≠ "malformed_field_indexes" →
      Value.field? (partedItem entries (values.map (·.text?))) name =
        Value.field? (partedItem others (values'.map (·.text?))) name := by
    intro name hf hm
    have hne : ∀ key : String, name ≠ key → Value.text key ≠ .text name := fun key h heq => h (Value.text.inj heq).symm
    unfold partedItem
    rw [Value.field?_put_of_ne (hne _ hm), Value.field?_put_of_ne (hne _ hf), Value.field?_erase_of_ne (hne _ hf),
      Value.field?_put_of_ne (hne _ hm), Value.field?_put_of_ne (hne _ hf), Value.field?_erase_of_ne (hne _ hf),
      hothers name hf]
  refine ⟨?_, by rw [field?_normalItem_fields]; rfl, by rw [field?_normalItem_malformed]; rfl, fun name hf hm => ?_⟩
  · rw [normalItem_eq, normalItem_eq, hothers "source_file" (by decide)]
    split
    · exact hpartedKeys
    · exact Value.keys_put hpartedKeys _ _ _
  · rw [normalItem_eq, normalItem_eq, hothers "source_file" (by decide)]
    split
    · exact hparted name hf hm
    · rw [Value.field?_put, Value.field?_put, hparted name hf hm]

/-- An item that is accepted without fields is accepted with any field list, and nothing else changes. -/
theorem entityOfItem_fields {index : Nat} {bare : Entity} (hfields : Value.field? entries "fields" = some (.list values))
    (hbare : entityOfItem sourceFile index (.map (Value.put entries (.text "fields") (.list []))) = .ok bare) :
    entityOfItem sourceFile index (.map entries) = .ok { bare with
      fields := fieldNames (values.map (·.text?))
      malformed := (missingPositions (values.map (·.text?))).map Int.ofNat } := by
  have hread : ∀ (entries : Mapping) (values : List Value) (e : Entity),
      Value.field? entries "fields" = some (.list values) →
      (entityOfItem sourceFile index (.map entries) = .ok e ↔ ReadFrom (normalItem sourceFile entries values) e) := by
    intro entries values e h
    rw [← ofEntries_eq_ok]
    simp only [entityOfItem, h, Option.getD_some, fieldValues?]
    cases Entity.ofEntries (normalItem sourceFile entries values) <;> simp [Checked.toExcept, Except.mapError]
  have halike : Alike (normalItem sourceFile entries values)
      (normalItem sourceFile (Value.put entries (.text "fields") (.list [])) []) :=
    alike_normalItem (Value.keys_put_of_field? hfields _).symm
      (fun name hn => (Value.field?_put_of_ne fun heq => hn (Value.text.inj heq).symm).symm) _ _
  rw [hread _ _ _ hfields]
  exact ((hread _ _ _ (Value.field?_put_self _ _ _)).mp hbare).of_alike halike (field?_normalItem_fields values)
    (field?_normalItem_malformed values)

/-! ## What follows for validation -/

/-- The levels and codes of diagnostics, in their order. -/
def marks (ds : Diagnostics) : List (Validation.Level × String) := ds.map fun d => (d.level, d.code)

theorem marks_append (ds ds' : Diagnostics) : marks (ds ++ ds') = marks ds ++ marks ds' := List.map_append

theorem marks_checkFieldName (i j : Nat) (d e : Entity) (name : String) :
    marks (Validation.checkFieldName i d name) = marks (Validation.checkFieldName j e name) := by
  unfold Validation.checkFieldName
  dsimp only
  split
  · rfl
  · rw [marks_append, marks_append]
    congr 1
    · split <;> rfl
    · split <;> rfl

/-- What is found of a field list depends on nothing else of the type. -/
theorem marks_checkFields {d e : Entity} (hf : d.fields = e.fields) (hm : d.malformed = e.malformed) (i j : Nat)
    (s : Settings) : marks (checkFields i d s) = marks (checkFields j e s) := by
  have hnames : Validation.wellFormedFields d = Validation.wellFormedFields e := by
    unfold Validation.wellFormedFields
    rw [hf, hm]
  have hpositions : Validation.malformedPositions d = Validation.malformedPositions e := by
    unfold Validation.malformedPositions
    rw [hm]
  have hmalformed (position : Int) : (fun x : Validation.Diagnostic => (x.level, x.code)) (Validation.malformedField i d s position) =
      (fun x : Validation.Diagnostic => (x.level, x.code)) (Validation.malformedField j e s position) := by
    unfold Validation.malformedField
    cases s.coerceMalformed <;> rfl
  unfold checkFields
  rw [hf, hnames, hpositions]
  split
  · rfl
  · rw [marks_append, marks_append, marks_append, marks_append]
    refine congrArg₂ _ (congrArg₂ _ ?_ ?_) ?_
    · simp only [marks, List.map_map]
      exact List.map_congr_left fun position _ => hmalformed position
    · simp only [marks, List.map_map]
      rfl
    · simp only [marks, List.map_flatMap]
      exact List.flatMap_congr fun name _ => marks_checkFieldName i j d e name

/-- Wherever the entity stands, its field list is found to be wrong and it is at an invalid position. -/
def Condemned (s : Settings) (e : Entity) : Prop :=
  ∀ (es : List Entity) (i : Nat), es[i]? = some e →
    (checkFields i e s).hasErrors = true ∧ (full es s).hasErrors = true ∧ .int i ∈ (full es s).invalidIndexes

theorem FieldList.condemned {e : Entity} (h : FieldList values e.fields e.malformed) {s : Settings}
    (hs : s.coerceMalformed = false) {v : Value} (hv : v ∈ values) (ht : v.text? = none) : Condemned s e := by
  obtain ⟨k, hk⟩ := List.mem_iff_getElem?.mp hv
  have hfields : e.fields ≠ [] := by
    intro hnil
    have hname := h.name k v hk
    rw [hnil] at hname
    cases hname
  have hmalformed : e.malformed ≠ [] := List.ne_nil_of_mem ((h.positions k).mpr ⟨k, rfl, v, hk, ht⟩)
  intro es i hi
  have hat : (full es s).HasErrorAt i :=
    Validation.hasErrorAt_full.mpr ⟨e, hi, .inl (.malformed hfields hmalformed hs)⟩
  exact ⟨(Validation.hasErrors_checkFields hfields).mpr (.inl ⟨hmalformed, hs⟩),
    Validation.hasErrors_full.mpr (.inr ⟨i, hat⟩), Validation.mem_invalidIndexes.mpr hat⟩

/-! ## Sources and manifests -/

/-- A class marked with literals, and an item with the list of their values, declare one field list: a text is
  the name at its position, anything else is malformed there. Of whatever else the item says its entity keeps
  all but malformed positions. Validation finds the same in both lists, and refuses both if a value is no
  text and is not to be coerced. -/
theorem field_lists_agree {source : String} {body : List Stmt} {line : Nat} {callee : Expr} {hasKeywords : Bool}
    {more : List Expr} (hn : '\x00' ∉ source.toList) (hr : read? source = some body) (hc : c ∈ Stmt.classesOf body)
    (hm : c.markers marker = .call line callee args hasKeywords :: more) (hargs : args.Forall₂ StandsFor values)
    {index : Nat} {bare : Entity} (hfields : Value.field? entries "fields" = some (.list values))
    (hbare : entityOfItem sourceFile index (.map (Value.put entries (.text "fields") (.list []))) = .ok bare) :
    ∃ found f e, scan source marker origin = .ok found ∧ f ∈ found ∧ finding? marker origin c = some f ∧
      entityOfItem sourceFile index (.map entries) = .ok e ∧
      e = { bare with fields := e.fields, malformed := e.malformed } ∧
      FieldList values f.entity.fields f.entity.malformed ∧
      e.fields = f.entity.fields ∧ e.malformed = f.entity.malformed ∧
      (∀ s i j, marks (checkFields i f.entity s) = marks (checkFields j e s)) ∧
      ∀ s, s.coerceMalformed = false → (∃ v ∈ values, v.text? = none) → Condemned s f.entity ∧ Condemned s e := by
  have hfound : finding? marker origin c =
      some ⟨entityOf origin c (.call line callee args hasKeywords) (more.length + 1),
        (Expr.call line callee args hasKeywords).namedArgumentsLine?⟩ := by
    rw [finding?, hm]
  have hscan : scan source marker origin = .ok ((Stmt.classesOf body).filterMap (finding? marker origin)) :=
    scan_of_read hn hr
  have hf : FieldList values (entityOf origin c (.call line callee args hasKeywords) (more.length + 1)).fields
      (entityOf origin c (.call line callee args hasKeywords) (more.length + 1)).malformed := fieldList_entityOf hargs
  have he : FieldList values (fieldNames (values.map (·.text?)))
      ((missingPositions (values.map (·.text?))).map Int.ofNat) := fieldList_of_texts values
  obtain ⟨hnames, hpositions⟩ := hf.unique he
  refine ⟨_, _, _, hscan, List.mem_filterMap.mpr ⟨c, hc, hfound⟩, hfound, entityOfItem_fields hfields hbare, rfl, hf,
    hnames, hpositions, fun s i j => marks_checkFields hnames.symm hpositions.symm i j s, fun s hs hv => ?_⟩
  obtain ⟨v, hv, ht⟩ := hv
  exact ⟨hf.condemned hs hv ht, FieldList.condemned he hs hv ht⟩

/-- A class whose marker is given two texts and five other literals. -/
def mixedSource : String := "@query_fields('title', 3, None, b'x', True, -1, 'sub' 'title')\nclass Item: pass\n"

def mixedClass : ClassDef := ⟨"Item", 2, [.call 1 (.name "query_fields")
  [.text "title", .constant, .constant, .constant, .constant, .other, .text "subtitle"] false], [.other]⟩

def mixedValues : List Value := [.text "title", .int 3, .null, .bytes [120], .bool true, .int (-1), .text "subtitle"]

/-- An item of a manifest with the same values. -/
def mixedItem : Mapping := [(.text "malformed_field_indexes", .list [.int 0]), (.text "fields", .list mixedValues),
  (.text "name", .text "Item")]

theorem field_lists_agree_mixed : ∃ found f e, scan mixedSource "query_fields" {} = .ok found ∧ f ∈ found ∧
    entityOfItem none 0 (.map mixedItem) = .ok e ∧ e.fields = f.entity.fields ∧ e.malformed = f.entity.malformed ∧
    Condemned .default e := by
  have hn : '\x00' ∉ mixedSource.toList := by decide
  have hr : read? mixedSource = some [.classDef "Item" 2 mixedClass.decorators mixedClass.body] := rfl
  have hc : mixedClass ∈ Stmt.classesOf [.classDef "Item" 2 mixedClass.decorators mixedClass.body] := .head _
  have hm : mixedClass.markers "query_fields" = .call 1 (.name "query_fields") [.text "title", .constant, .constant,
      .constant, .constant, .other, .text "subtitle"] false :: [] := rfl
  have hargs : [Expr.text "title", .constant, .constant, .constant, .constant, .other, .text "subtitle"].Forall₂ StandsFor
      mixedValues :=
    .cons (.text _) (.cons (.other rfl rfl) (.cons (.other rfl rfl) (.cons (.other rfl rfl) (.cons (.other rfl rfl)
      (.cons (.other rfl rfl) (.cons (.text _) .nil))))))
  have hfields : Value.field? mixedItem "fields" = some (.list mixedValues) := rfl
  have hbare : entityOfItem none 0 (.map (Value.put mixedItem (.text "fields") (.list []))) =
      .ok ⟨"Item", none, [], [], 1, none, none, none, none⟩ := rfl
  obtain ⟨found, f, e, hscan, hf, -, hitem, -, -, hsame, hpositions, -, hcondemned⟩ :=
    field_lists_agree hn hr hc hm hargs hfields hbare
  exact ⟨found, f, e, hscan, hf, hitem, hsame, hpositions, (hcondemned .default rfl ⟨.null, .tail _ (.tail _ (.head _)), rfl⟩).2⟩

end CrudQueries.Manifest
