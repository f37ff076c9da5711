/-
  CrudQueries.Proofs.Query.Parameters — what the named parameters of a statement stand for.

  A parameter is an `@` and the longest name after it (`namedParameters`). Those of a statement come from its fixed
  text, from its joins or from its table; as each piece ends where no name can go on, the parameters of the whole
  text are those of its pieces (`Statement.map_parameters`). A statement keeps its parameters apart if none of its
  own is that of a field as well (`KeptApart`).

  Validation keeps the managed columns out of the field list, and with them the parameters `@Id`, `@Created`,
  `@Modified` and `@Deleted`; but an update also takes the version that the caller has seen, and no column has the
  name of `@Version`. A name with a newline at its end is not found to be managed either, and its parameter goes
  without the newline. These names are the only ones with which a type that passes mixes up parameters
  (`parameters_keptApart_iff`): with a field `Version`, the value that a caller wants stored is also the one
  that the row's version is compared with (`version_captured`).
-/

import CrudQueries.Proofs.Query.Columns
import CrudQueries.Proofs.Query.Pieces

namespace CrudQueries.Query

open CrudQueries.Text (isNameChar isIdentifier)
open CrudQueries.Validation (checkEntity isManaged word)

/-! ## Reading parameters -/

/-- The names after each `@`, as far as names go. -/
def namedParameters : List Char → List String
  | [] => []
  | c :: rest =>
    if c = '@' then String.ofList (rest.takeWhile isNameChar) :: namedParameters rest else namedParameters rest

/-- A name that was read before this text does not go on in it. -/
def startsApart (cs : List Char) : Bool := cs.head?.all (!isNameChar ·)

/-- No name that is read in this text goes on after it. -/
def endsApart (cs : List Char) : Bool := cs.getLast?.any fun c => !isNameChar c && c != '@'

theorem namedParameters_append {cs ds : List Char} (h : startsApart ds = true) :
    namedParameters (cs ++ ds) = namedParameters cs ++ namedParameters ds := by
  induction cs with
  | nil => rfl
  | cons c cs ih =>
    have hname : (cs ++ ds).takeWhile isNameChar = cs.takeWhile isNameChar := by
      rw [List.takeWhile_append, Validation.takeWhile_of_stop h]
      split
      · rename_i hall
        rw [List.append_nil, (List.takeWhile_prefix isNameChar).eq_of_length hall]
      · rfl
    rw [List.cons_append, namedParameters, namedParameters, hname, ih]
    split <;> rfl

theorem namedParameters_append_of_endsApart {cs : List Char} (h : endsApart cs = true) (ds : List Char) :
    namedParameters (cs ++ ds) = namedParameters cs ++ namedParameters ds := by
  rcases List.eq_nil_or_concat cs with rfl | ⟨before, c, rfl⟩
  · cases h
  · have hc : isNameChar c = false ∧ c ≠ '@' := by simpa [endsApart] using h
    have hstop : ∀ rest, namedParameters (before ++ c :: rest) = namedParameters before ++ namedParameters rest := by
      intro rest
      rw [namedParameters_append (by simp [startsApart, hc.1]), namedParameters, if_neg hc.2]
    rw [List.concat_eq_append, List.append_assoc, List.singleton_append, hstop, hstop]
    simp [namedParameters]

theorem namedParameters_of_not_mem {cs : List Char} (h : '@' ∉ cs) (ds : List Char) :
    namedParameters (cs ++ ds) = namedParameters ds := by
  induction cs with
  | nil => rfl
  | cons c cs ih =>
    simp only [List.mem_cons, not_or] at h
    rw [List.cons_append, namedParameters, if_neg (Ne.symm h.1), ih h.2]

/-! ## The parameters of fields -/

theorem at_not_mem_identifier {f : String} (h : isIdentifier f = true) : '@' ∉ f.toList :=
  Text.not_mem_identifier h (by decide) (by decide)

/-- The parameter of a field goes by the field's word. -/
theorem namedParameters_at {f : String} (h : isIdentifier f = true) {rest : List Char} (hrest : startsApart rest = true) :
    namedParameters ('@' :: (f.toList ++ rest)) = word f :: namedParameters rest := by
  rw [namedParameters, if_pos rfl, Validation.takeWhile_identifier h hrest,
    namedParameters_of_not_mem (at_not_mem_identifier h), String.ofList_toList]

/-- The parameters of the fields that a join names. -/
def Join.fieldParameters (j : Join) (fields : List String) : List String :=
  match j with
  | .columns => []
  | _ => fields.map word

/-- What is assigned to a field has the parameters of the assignment. -/
theorem namedParameters_assignment {f : String} (h : isIdentifier f = true) (value : String) :
    namedParameters (f ++ "=" ++ value).toList = namedParameters value.toList := by
  rw [toList_assignment, namedParameters_of_not_mem (at_not_mem_identifier h), namedParameters, if_neg (by decide)]

theorem namedParameters_segment {f : String} (h : isIdentifier f = true) (j : Join) :
    namedParameters (j.segment f).toList = j.fieldParameters [f] := by
  have hat := at_not_mem_identifier h
  have hname : namedParameters f.toList = [] := by
    have hnone := namedParameters_of_not_mem hat []
    rwa [List.append_nil] at hnone
  have hparameter : namedParameters (parameter f).toList = [word f] := by
    have htext : (parameter f).toList = '@' :: (f.toList ++ []) := by simp [parameter, String.toList_append]
    rw [htext, namedParameters_at h rfl]
    rfl
  have hkeeping : namedParameters (keepingValue f).toList = [word f] := by
    have htext : (keepingValue f).toList = "COALESCE(".toList ++ '@' :: (f.toList ++ ',' :: (f.toList ++ [')'])) := by
      simp [keepingValue, parameter, String.toList_append]
    rw [htext, namedParameters_of_not_mem (by decide), namedParameters_at h rfl, namedParameters, if_neg (by decide),
      namedParameters_of_not_mem hat]
    rfl
  cases j with
  | columns => exact hname
  | parameters => exact hparameter
  | assignments => exact (namedParameters_assignment h (parameter f)).trans hparameter
  | keepingAssignments => exact (namedParameters_assignment h (keepingValue f)).trans hkeeping
  | keepingValues => exact hkeeping

theorem fieldParameters_cons (j : Join) (f : String) (fields : List String) :
    j.fieldParameters (f :: fields) = j.fieldParameters [f] ++ j.fieldParameters fields := by
  cases j <;> rfl

theorem namedParameters_join {fields : List String} (h : ∀ f ∈ fields, isIdentifier f = true) (j : Join) :
    namedParameters (j.text fields).toList = j.fieldParameters fields := by
  rw [Join.text]
  induction fields with
  | nil => cases j <;> rfl
  | cons f fields ih =>
    have hf := namedParameters_segment (h f List.mem_cons_self) j
    have hrest := ih fun g hg => h g (List.mem_cons_of_mem _ hg)
    rw [fieldParameters_cons, ← hf, ← hrest, List.map_cons]
    by_cases hfields : fields = []
    · subst hfields
      rw [List.map_nil, String.intercalate_singleton, String.intercalate_nil]
      exact (List.append_nil _).symm
    · -- the comma ends the last parameter of a segment
      rw [String.intercalate_cons_of_ne_nil (by simpa using hfields), String.toList_append, String.toList_append,
        List.append_assoc, show ",".toList = [','] from rfl, List.singleton_append, namedParameters_append rfl,
        namedParameters, if_neg (by decide)]

/-! ## The parameters of statements -/

/-- What a parameter is named for. -/
inductive Origin where
  | statement
  | field
  | table
  deriving DecidableEq, Repr

def Piece.origin : Piece → Origin
  | .fixed _ => .statement
  | .join _ => .field
  | .table => .table

/-- The parameters of a statement, in order, with what they are named for. -/
def Statement.parameters (s : Statement) (fields : List String) (table : String) : List (String × Origin) :=
  s.pieces.flatMap fun p => (namedParameters (p.chars (Joins.of fields) table)).map fun name => (name, p.origin)

/-- No parameter of the statement's own is that of a field as well. -/
def KeptApart (parameters : List (String × Origin)) : Prop :=
  ∀ name, (name, .field) ∈ parameters → (name, .statement) ∉ parameters

/-- A fixed text before which names end. -/
def Piece.stops : Piece → Bool
  | .fixed w => w.toList.head?.any (!isNameChar ·)
  | _ => false

/-- A fixed text in which names end. -/
def Piece.settles : Piece → Bool
  | .fixed w => endsApart w.toList
  | _ => false

/-- Names end where one piece meets the next, whatever the joins and the table are. -/
def areParted : List Piece → Bool
  | p :: q :: ps => (p.settles || q.stops) && areParted (q :: ps)
  | _ => true

theorem Statement.areParted_pieces (s : Statement) : areParted s.pieces = true := by
  cases s <;> decide

theorem startsApart_of_stops {p : Piece} (h : p.stops = true) (joins : Joins) (table : String) (rest : List Char) :
    startsApart (p.chars joins table ++ rest) = true := by
  cases p with
  | fixed w =>
    show startsApart (w.toList ++ rest) = true
    unfold Piece.stops at h
    cases hw : w.toList with
    | nil => simp [hw] at h
    | cons c cs => simpa [hw, startsApart] using h
  | join j => cases h
  | table => cases h

theorem namedParameters_flatMap (joins : Joins) (table : String) {ps : List Piece} (h : areParted ps = true) :
    namedParameters (ps.flatMap (Piece.chars joins table)) = ps.flatMap fun p => namedParameters (p.chars joins table) := by
  induction ps with
  | nil => rfl
  | cons p ps ih =>
    cases ps with
    | nil => simp
    | cons q ps =>
      simp only [areParted, Bool.and_eq_true, Bool.or_eq_true] at h
      show namedParameters (p.chars joins table ++ (q :: ps).flatMap (Piece.chars joins table)) =
        namedParameters (p.chars joins table) ++ (q :: ps).flatMap fun p => namedParameters (p.chars joins table)
      rw [← ih h.2]
      rcases h.1 with hsettles | hstops
      · cases p with
        | fixed w => exact namedParameters_append_of_endsApart hsettles _
        | join j => cases hsettles
        | table => cases hsettles
      · rw [List.flatMap_cons]
        exact namedParameters_append (startsApart_of_stops hstops joins table _)

/-- The parameters of a statement's text are those of its pieces. -/
theorem Statement.map_parameters (s : Statement) (fields : List String) (table : String) :
    (s.parameters fields table).map Prod.fst = namedParameters (s.text (Joins.of fields) table).toList := by
  rw [toList_text, namedParameters_flatMap _ _ s.areParted_pieces, parameters, List.map_flatMap]
  refine List.flatMap_congr fun p _ => ?_
  rw [List.map_map]
  exact List.map_id _

theorem mem_parameters {s : Statement} {name : String} {o : Origin} :
    (name, o) ∈ s.parameters fields table ↔
      ∃ p ∈ s.pieces, p.origin = o ∧ name ∈ namedParameters (p.chars (Joins.of fields) table) := by
  rw [Statement.parameters, List.mem_flatMap]
  refine exists_congr fun p => and_congr_right fun _ => ?_
  rw [List.mem_map]
  constructor
  · rintro ⟨name', hname, heq⟩
    cases heq
    exact ⟨rfl, hname⟩
  · rintro ⟨rfl, hname⟩
    exact ⟨name, hname, rfl⟩

/-! ## Roles -/

/-- The parameters in the fixed text of a statement. -/
def Statement.ownParameters (s : Statement) : List String :=
  s.pieces.flatMap fun
    | .fixed w => namedParameters w.toList
    | _ => []

/-- Is there a parameter for each field? -/
def Statement.takesFields (s : Statement) : Bool :=
  s.pieces.any fun
    | .join j => j != .columns
    | _ => false

/-- The parameters that a statement binds itself while it takes those of the fields. -/
def boundBesideFields : List String := ["Id", "Version", "Created", "Modified", "Deleted"]

theorem Statement.ownParameters_subset {s : Statement} (h : s.takesFields = true) :
    ∀ name ∈ s.ownParameters, name ∈ boundBesideFields := by
  cases s with
  | insert => decide
  | update => decide
  | patch => decide
  | selectPage => cases h
  | selectRow => cases h
  | delete => cases h
  | undelete => cases h

theorem exists_bound {name : String} (h : name ∈ boundBesideFields) :
    ∃ s : Statement, s.takesFields = true ∧ name ∈ s.ownParameters := by
  simp only [boundBesideFields, List.mem_cons, List.not_mem_nil, or_false] at h
  rcases h with rfl | rfl | rfl | rfl | rfl
  · exact ⟨.update, by decide, by decide⟩
  · exact ⟨.update, by decide, by decide⟩
  · exact ⟨.insert, by decide, by decide⟩
  · exact ⟨.insert, by decide, by decide⟩
  · exact ⟨.insert, by decide, by decide⟩

theorem mem_parameters_statement {s : Statement} {name : String} :
    (name, .statement) ∈ s.parameters fields table ↔ name ∈ s.ownParameters := by
  rw [mem_parameters, Statement.ownParameters, List.mem_flatMap]
  refine exists_congr fun p => and_congr_right fun _ => ?_
  cases p <;> simp [Piece.origin, Piece.chars]

theorem mem_parameters_field (h : ∀ f ∈ fields, isIdentifier f = true) {s : Statement} {name : String} :
    (name, .field) ∈ s.parameters fields table ↔ s.takesFields = true ∧ name ∈ fields.map word := by
  rw [mem_parameters, Statement.takesFields, List.any_eq_true, ← exists_and_right]
  refine exists_congr fun p => ?_
  rw [and_assoc]
  refine and_congr_right fun _ => ?_
  cases p with
  | fixed w => simp [Piece.origin]
  | table => simp [Piece.origin]
  | join j =>
    show Piece.origin _ = _ ∧ name ∈ namedParameters ((Joins.of fields).get j).toList ↔ _
    rw [Joins.get_of, namedParameters_join h]
    cases j <;> simp [Piece.origin, Join.fieldParameters]

/-- Statements keep their parameters apart exactly if no field goes by the name of one that they bind beside fields. -/
theorem keptApart_iff (h : ∀ f ∈ fields, isIdentifier f = true) :
    (∀ s : Statement, KeptApart (s.parameters fields table)) ↔ ∀ f ∈ fields, word f ∉ boundBesideFields := by
  constructor
  · intro hkept f hf hbound
    obtain ⟨s, htakes, hown⟩ := exists_bound hbound
    have hfield : (word f, .field) ∈ s.parameters fields table :=
      (mem_parameters_field h).mpr ⟨htakes, List.mem_map_of_mem hf⟩
    exact hkept s (word f) hfield (mem_parameters_statement.mpr hown)
  · intro hnone s name hfield hstatement
    obtain ⟨htakes, hname⟩ := (mem_parameters_field h).mp hfield
    obtain ⟨f, hf, rfl⟩ := List.mem_map.mp hname
    exact hnone f hf (Statement.ownParameters_subset htakes _ (mem_parameters_statement.mp hstatement))

/-! ## Types without errors -/

/-- The names that pass although a statement binds their parameter itself. -/
def captured : List String := ["Version", "Version\n", "Id\n", "Created\n", "Modified\n", "Deleted\n"]

theorem word_mem_boundBesideFields {f : String} (h : isManaged f = false) :
    word f ∈ boundBesideFields ↔ f ∈ captured := by
  constructor
  · intro hbound
    -- each bound name, without and with a newline: the checks have found those that are managed columns
    have hcases : f ∈ boundBesideFields ++ boundBesideFields.map (· ++ "\n") := by
      rw [List.mem_append]
      rcases Validation.toList_cases f with he | he
      · rw [String.toList_inj.mp he]
        exact .inl hbound
      · have hf : f = word f ++ "\n" := by
          apply String.toList_inj.mp
          rw [he, String.toList_append]
          rfl
        rw [hf]
        exact .inr (List.mem_map_of_mem hbound)
    have hall : ∀ g ∈ boundBesideFields ++ boundBesideFields.map (· ++ "\n"), isManaged g = true ∨ g ∈ captured := by decide
    rcases hall f hcases with hmanaged | hcaptured
    · rw [h] at hmanaged
      cases hmanaged
    · exact hcaptured
  · intro hcaptured
    have hall : ∀ g ∈ captured, word g ∈ boundBesideFields := by decide
    exact hall f hcaptured

variable {settings : Settings} {e : Entity} {index : Nat}

/-- The statements of a type without errors keep their parameters apart exactly if no field has one of six names. -/
theorem parameters_keptApart_iff (hc : settings.coerceMalformed = false)
    (h : (checkEntity index e settings).hasErrors = false) (hf : e.fields ≠ []) (table : String) :
    ∃ a, Artifacts.build e.typeName e.fields table = .ok a ∧
      (∀ s, (s.parameters e.fields table).map Prod.fst = namedParameters (a.statement s).toList) ∧
      ((∀ s : Statement, KeptApart (s.parameters e.fields table)) ↔ ∀ f ∈ e.fields, f ∉ captured) := by
  have hnames := Validation.accepted_fieldNames hc h
  obtain ⟨a, ha⟩ := build_eq_ok e.typeName table hf
  refine ⟨a, ha, ?_, ?_⟩
  · intro s
    rw [Statement.map_parameters, (eq_of_build ha).2]
  · rw [keptApart_iff fun f hf => (hnames f hf).1]
    refine forall₂_congr fun f hf => ?_
    rw [word_mem_boundBesideFields (hnames f hf).2]

/-- Fields with the names of other statements' parameters. -/
theorem parameters_keptApart_iff_page :
    Settings.default.coerceMalformed = false ∧
      (checkEntity 0 ⟨"Item", some "items", ["Num", "Start", "Now", "version"], [], 1, none, none, none, none⟩
        .default).hasErrors = false ∧
      ∀ s : Statement, KeptApart (s.parameters ["Num", "Start", "Now", "version"] "items@Id") := by
  have haccepted : (checkEntity 0 ⟨"Item", some "items", ["Num", "Start", "Now", "version"], [], 1, none, none, none, none⟩
      .default).hasErrors = false := by decide +kernel
  obtain ⟨a, -, -, hiff⟩ := parameters_keptApart_iff rfl haccepted (by decide) "items@Id"
  exact ⟨rfl, haccepted, hiff.mpr (by decide)⟩

/-- A field `Version` passes, and its new value is also what an update compares the row's version with. -/
theorem version_captured :
    Settings.default.coerceMalformed = false ∧
      (checkEntity 0 ⟨"Item", some "items", ["Version"], [], 1, none, none, none, none⟩ .default).hasErrors = false ∧
      (∃ a, Artifacts.build "Item" ["Version"] "items" = .ok a ∧
        a.update = "UPDATE items SET Version=@Version,modified=@Modified WHERE deleted IS NULL AND id=@Id AND " ++
          "(@Version IS NULL OR modified=@Version)") ∧
      ¬ KeptApart (Statement.update.parameters ["Version"] "items") := by
  refine ⟨rfl, by decide +kernel, ⟨_, rfl, by decide⟩, ?_⟩
  intro hkept
  exact hkept "Version" (by decide) (by decide)

end CrudQueries.Query
