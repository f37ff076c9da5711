/-
  CrudQueries.Proofs.CommandLine.Settings — the settings that a run of the program works with.

  Settings stand in the manifest (`InManifest`), in a file of their own (`InFile`) and among the arguments
  (`flag?`). A setting has the value of the arguments if they give one, else that of the file, else that of the
  manifest, else its default (`given?`). They are merged at two places, the arguments over the file
  (`settingsMapping_of_inFile`) and both over the manifest, which comes to the same as all three at once
  (`ofLayers_eq_ok`). Settings that are refused end the run with an input error and leave the tree as it is
  (`run_refused`); otherwise they are those that the run works with (`ofLayers_of_collected`, `worksWith`).
  `settings_settled` puts this together.
-/

import CrudQueries.Proofs.CommandLine.Mode
import CrudQueries.Proofs.Files.Directory
import CrudQueries.Proofs.Generation.Intake
import CrudQueries.Proofs.Manifest.Loading
import CrudQueries.Proofs.Settings.Precedence
import Mathlib

namespace CrudQueries.CommandLine

open CrudQueries.Data (Value)
open CrudQueries.Data.Value (IsNamed)
open CrudQueries.Files (Path Tree Trouble)
open CrudQueries.Generation (Input Report collected? load)
open CrudQueries.Manifest (Mapping)
open CrudQueries.Settings (Accepts Governs merge settingNames)
open CrudQueries.Text (Utf8.encode)

variable {t : Tree} {a : Arguments} {file inManifest mapping : Mapping} {s : Settings}

/-! ## Where settings stand -/

/-- The value that the arguments give a setting. -/
def flag? (a : Arguments) : String → Option Value
  | "language" => a.language.map fun l => .text l.name
  | "namespace" => a.namespaceName.map .text
  | "module_suffix" => a.moduleSuffix.map .text
  | "coerce_malformed_fields" => if a.coerceMalformed then some (.bool true) else none
  | _ => none

/-- The settings in the file that the arguments name, in a part of their own or all of it; none if no file is named. -/
inductive InFile (t : Tree) (a : Arguments) : Mapping → Prop
  | unnamed (h : a.config = none) : InFile t a []
  | named {config : String} {path : Path} {document : Mapping} {part : Option Mapping} (h : a.config = some config)
      (hp : t.resolve (Path.ofText config) = .ok path) (hd : Manifest.loadDocument t path = .ok document)
      (hs : Manifest.settingsIn document = .ok part) : InFile t a (part.getD document)

/-- The settings in the manifest that the arguments name; none if it has no part for them, or no manifest is named. -/
inductive InManifest (t : Tree) (a : Arguments) : Mapping → Prop
  | unnamed (h : a.manifest = none) : InManifest t a []
  | named {manifest : String} {path : Path} {document : Mapping} {o : Manifest.Outline} (h : a.manifest = some manifest)
      (hp : t.resolve (Path.ofText manifest) = .ok path) (hd : Manifest.loadDocument t path = .ok document)
      (ho : Manifest.outline document = .ok o) : InManifest t a (o.settings.getD [])

/-- The value that a setting is given: by the arguments, else in the file, else in the manifest. Of the entries of
  a mapping with one key the last counts. -/
def given? (a : Arguments) (file inManifest : Mapping) (name : String) : Option Value :=
  (flag? a name).or ((Value.field? file.reverse name).or (Value.field? inManifest.reverse name))

/-! ## Merging -/

theorem field?_entry (key name : String) (v : Option Value) :
    Value.field? (v.map fun v => (Value.text key, v)).toList name = if key = name then v else none := by
  cases v with
  | none => simp
  | some v =>
    rw [Option.map_some, Option.toList_some, Value.field?_cons]
    simp [Value.sameKey_text]

theorem argumentSettings_eq (a : Arguments) : argumentSettings a =
    ((flag? a "language").map fun v => (Value.text "language", v)).toList ++
    ((flag? a "namespace").map fun v => (Value.text "namespace", v)).toList ++
    ((flag? a "module_suffix").map fun v => (Value.text "module_suffix", v)).toList ++
    ((flag? a "coerce_malformed_fields").map fun v => (Value.text "coerce_malformed_fields", v)).toList := by
  simp only [flag?, Option.map_map, argumentSettings]
  cases a.coerceMalformed <;> rfl

theorem field?_argumentSettings (a : Arguments) (name : String) :
    Value.field? (argumentSettings a).reverse name = flag? a name := by
  have hreverse (v : Option (Value × Value)) : v.toList.reverse = v.toList := by cases v <;> rfl
  simp only [argumentSettings_eq, List.reverse_append, Value.field?_append, hreverse, field?_entry]
  by_cases hname : name ∈ ["language", "namespace", "module_suffix", "coerce_malformed_fields"]
  · simp only [List.mem_cons, List.not_mem_nil, or_false] at hname
    rcases hname with rfl | rfl | rfl | rfl <;> simp
  · simp only [List.mem_cons, List.not_mem_nil, or_false, not_or] at hname
    obtain ⟨h1, h2, h3, h4⟩ := hname
    have hnone : flag? a name = none := by
      unfold flag?
      split <;> first | contradiction | rfl
    simp [Ne.symm h1, Ne.symm h2, Ne.symm h3, Ne.symm h4, hnone]

theorem named_argumentSettings (a : Arguments) : ∀ e ∈ argumentSettings a, IsNamed settingNames e.1 := by
  intro e he
  simp only [argumentSettings_eq, List.mem_append, Option.mem_toList, Option.map_eq_some_iff] at he
  rcases he with ((⟨v, -, rfl⟩ | ⟨v, -, rfl⟩) | ⟨v, -, rfl⟩) | ⟨v, -, rfl⟩
  · exact ⟨"language", by decide, rfl⟩
  · exact ⟨"namespace", by decide, rfl⟩
  · exact ⟨"module_suffix", by decide, rfl⟩
  · exact ⟨"coerce_malformed_fields", by decide, rfl⟩

theorem settingsMapping_of_inFile (hf : InFile t a file) :
    settingsMapping t a = .ok (merge [file, argumentSettings a]) := by
  unfold settingsMapping
  cases hf with
  | unnamed h => rw [h]; rfl
  | named h hp hd hs =>
    simp only [h, hp, Manifest.loadSettings, hd, Except.mapError, hs, bind, Except.bind]

/-- The keys of the mappings are names of settings. -/
def AllNamed (mappings : List Mapping) : Prop := ∀ m ∈ mappings, ∀ e ∈ m, IsNamed settingNames e.1

/-- Putting the arguments over the file and both over the manifest comes to what all three give. -/
theorem ofLayers_eq_ok (a : Arguments) (file inManifest : Mapping) (s : Settings) :
    Settings.ofLayers [inManifest, merge [file, argumentSettings a]] = .ok s ↔
      AllNamed [inManifest, file] ∧ Governs (given? a file inManifest) s := by
  have hgiven : Settings.given? [inManifest, merge [file, argumentSettings a]] = given? a file inManifest := by
    funext name
    have hinner : Settings.given? [merge [file, argumentSettings a]] name = (flag? a name).or (Value.field? file.reverse name) := by
      rw [← Settings.field?_merge, Settings.merge_merge, List.append_nil, Settings.field?_merge]
      simp only [Settings.given?, Option.none_or, field?_argumentSettings]
    rw [Settings.given?, hinner, given?, Option.or_assoc]
  have hkeys : (∀ m ∈ [inManifest, merge [file, argumentSettings a]], ∀ e ∈ m, IsNamed settingNames e.1) ↔
      AllNamed [inManifest, file] := by
    have hmerged : (∀ e ∈ merge [file, argumentSettings a], IsNamed settingNames e.1) ↔
        ∀ e ∈ file, IsNamed settingNames e.1 := by
      rw [Settings.forall_keys_merge, List.forall_mem_cons, List.forall_mem_singleton]
      exact and_iff_left (named_argumentSettings a)
    unfold AllNamed
    rw [List.forall_mem_cons, List.forall_mem_singleton, List.forall_mem_cons, List.forall_mem_singleton, hmerged]
  rw [Settings.ofLayers_eq_ok, hgiven, hkeys]

/-! ## Where settings are read -/

/-- What a run that names sources or a manifest with these settings has for an input. -/
theorem inputOf_of_sources (h : a.manifest = none) : inputOf t a mapping =
    match Settings.ofLayers [[], mapping] with
    | .error r => .error (.input (Settings.refusal r))
    | .ok s => .ok (.sources ((a.sources.getD []).map Path.ofText) s) := by
  have hlayers : Settings.ofLayers [[], mapping] = Settings.ofLayers [mapping] := Settings.ofLayers_empty [] [mapping]
  cases hs : Settings.ofLayers [mapping] <;> simp only [inputOf, h, hlayers, hs]

theorem inputOf_of_manifest {manifest : String} {path : Path} (h : a.manifest = some manifest)
    (hp : t.resolve (Path.ofText manifest) = .ok path) : inputOf t a mapping = .ok (.manifest path mapping) := by
  unfold inputOf
  simp only [h, hp]

/-- The entities of a manifest's items. -/
def entitiesOf (path : Path) (o : Manifest.Outline) : Except Manifest.ContentError (List Entity) :=
  o.items.zipIdx.mapM fun (item, index) => Manifest.entityOfItem (some path.text) index item

theorem collected?_of_manifest {path : Path} {document : Mapping} {o : Manifest.Outline}
    (hd : Manifest.loadDocument t path = .ok document) (ho : Manifest.outline document = .ok o) :
    collected? t (.manifest path mapping) =
      match entitiesOf path o, Settings.ofLayers [o.settings.getD [], mapping] with
      | .ok entities, .ok s => some (entities, s)
      | _, _ => none := by
  unfold collected? load entitiesOf
  simp only [hd, ho, Except.toOption, Option.map_some, Option.bind_some, Manifest.Outline.read]
  cases o.items.zipIdx.mapM fun (item, index) => Manifest.entityOfItem (some path.text) index item with
  | error e => rfl
  | ok entities => cases Settings.ofLayers [o.settings.getD [], mapping] <;> rfl

/-- A run works on what it collected. -/
theorem collected_of_work {input : Input} {output : Option Path} {options : Generation.Options} {entities : List Entity}
    (h : (Generation.run t options input output).2.1.work = some (entities, s)) :
    collected? t input = some (entities, s) := by
  have hcourse := Generation.run_course t options input output
  generalize Generation.run t options input output = done at hcourse h
  cases hcourse with
  | lost | unchecked | refused | uncollected => cases h
  | collected place entities' s' ho hc hw u r hp =>
    have hframe := (Generation.process_frame t
      { options, output := place, intake := some (Generation.intakeOf t input) } entities' s').2.2.2
    rw [hp, h] at hframe
    rw [hw, hframe]

/-! ## Refusal -/

/-- No settings are looked at because a path cannot be resolved: the output, or once more the place of the output or
  of the manifest; or because the path of the manifest is empty. -/
inductive Lost (t : Tree) (a : Arguments) : Prop
  | output {text : String} {e : Trouble} (h : a.output = some text) (he : t.resolve (Path.ofText text) = .error e)
  | outputPlace {text : String} {place : Path} {e : Trouble} (h : a.output = some text)
      (hp : t.resolve (Path.ofText text) = .ok place) (he : t.resolve place = .error e)
  | manifestPlace {text : String} {place : Path} {e : Trouble} (h : a.manifest = some text)
      (hp : t.resolve (Path.ofText text) = .ok place) (he : t.resolve place = .error e)
  | unnamed (h : a.manifest = some "") (hs : a.sources = none)

/-- A run ends with an input error, or with a fault because no settings are looked at, and leaves the tree as it was. -/
def EndsEarly (t : Tree) (a : Arguments) (o : Outcome) : Prop :=
  o.tree = t ∧ (o.exitCode = Report.inputFailed ∨ o.exitCode = faultCode ∧ Lost t a)

theorem resolve_error_of_mapM {α : Type} {output : Option α} {pathOf : α → Path} {e : Trouble}
    (h : output.mapM (fun p => t.resolve (pathOf p)) = .error e) : ∃ p, output = some p ∧ t.resolve (pathOf p) = .error e := by
  cases output with
  | none => cases h
  | some p =>
    refine ⟨p, rfl, ?_⟩
    cases hp : t.resolve (pathOf p) with
    | ok q =>
      simp only [Option.mapM_some, hp] at h
      cases h
    | error e' =>
      simp only [Option.mapM_some, hp] at h
      exact congrArg _ (Except.error.inj h)

theorem resolve_ok_of_mapM {α : Type} {output : Option α} {pathOf : α → Path} {place : Path}
    (h : output.mapM (fun p => t.resolve (pathOf p)) = .ok (some place)) :
    ∃ p, output = some p ∧ t.resolve (pathOf p) = .ok place := by
  cases output with
  | none => cases h
  | some p =>
    refine ⟨p, rfl, ?_⟩
    cases hp : t.resolve (pathOf p) with
    | error e =>
      simp only [Option.mapM_some, hp] at h
      cases h
    | ok q =>
      simp only [Option.mapM_some, hp] at h
      exact congrArg _ (Option.some.inj (Except.ok.inj h))

theorem resolve_error_of_checkClean {options : Generation.Options} {output : Option Path} {inputs : List Path}
    {e : Trouble} (h : Generation.checkClean t options output inputs = .error e) :
    ∃ p ∈ inputs, t.resolve p = .error e := by
  unfold Generation.checkClean at h
  cases output with
  | none => cases h
  | some place =>
    dsimp only at h
    split at h
    · cases h
    · induction inputs with
      | nil => cases h
      | cons p inputs ih =>
        rw [Generation.conflict?] at h
        cases hp : t.resolve p with
        | error e' =>
          rw [hp] at h
          exact ⟨p, List.mem_cons_self, hp.trans (congrArg _ (Except.error.inj h))⟩
        | ok q =>
          simp only [hp, bind, Except.bind] at h
          split at h
          · cases h
          · obtain ⟨p', hmem, he⟩ := ih h
            exact ⟨p', List.mem_cons_of_mem p hmem, he⟩

theorem exitCode_of_inputErrors {r : Generation.Run} (h : r.report.inputErrors ≠ []) :
    r.report.exitCode = Report.inputFailed := by
  have hempty : r.report.inputErrors.isEmpty = false := by simpa using h
  have hfailed : r.report.success = false := by
    have hsuccess : r.report.success = r.report.hasNoErrors := rfl
    rw [hsuccess, Report.hasNoErrors, hempty]
    rfl
  unfold Report.exitCode
  rw [hfailed, hempty]
  rfl

/-- Settings that are refused end the run before anything is written. -/
theorem runWith_refused (hm : InManifest t a inManifest) (hr : ∀ s, Settings.ofLayers [inManifest, mapping] ≠ .ok s)
    {output : Option Path}
    (hplace : ∀ place, output = some place → ∃ text, a.output = some text ∧ t.resolve (Path.ofText text) = .ok place)
    (log : List LogItem) : EndsEarly t a (runWith t a output mapping log) := by
  unfold runWith
  cases hm with
  | unnamed h =>
    rw [inputOf_of_sources h]
    cases hlayers : Settings.ofLayers [[], mapping] with
    | ok s => exact absurd hlayers (hr s)
    | error r => exact ⟨rfl, .inl rfl⟩
  | @named manifest path document o h hp hd ho =>
    rw [inputOf_of_manifest h hp]
    have hnone : collected? t (.manifest path mapping) = none := by
      rw [collected?_of_manifest hd ho]
      split
      · exact absurd ‹_› (hr _)
      · rfl
    -- No types are collected, so a run that is not stopped before ends with its input.
    have hcourse := Generation.run_course t (options a) (.manifest path mapping) output
    dsimp only
    generalize Generation.run t (options a) (.manifest path mapping) output = done at hcourse ⊢
    cases hcourse with
    | lost e ho =>
      obtain ⟨place, hout, he⟩ := resolve_error_of_mapM ho
      obtain ⟨text, htext, hresolved⟩ := hplace place hout
      exact ⟨rfl, .inr ⟨rfl, .outputPlace htext hresolved he⟩⟩
    | unchecked place e ho hc =>
      obtain ⟨p, hmem, he⟩ := resolve_error_of_checkClean hc
      obtain rfl := List.mem_singleton.mp hmem
      exact ⟨rfl, .inr ⟨rfl, .manifestPlace h hp he⟩⟩
    | refused place c ho hc =>
      let r : Generation.Run := { options := options a, output := place, conflict := some c }
      have herrors : r.report.inputErrors ≠ [] := List.cons_ne_nil _ _
      exact ⟨rfl, .inl (exitCode_of_inputErrors herrors)⟩
    | uncollected place ho hc hw =>
      let r : Generation.Run := { options := options a, output := place, intake := some (.loaded (load t path mapping)) }
      have herrors : r.report.inputErrors ≠ [] := Generation.inputErrors_of_uncollected hw rfl
      have hfault : r.fault? = none := by
        simp only [r, Generation.Run.fault?, load, hd, Option.bind_none, Option.map_none]
      simp only [Generation.intakeOf]
      rw [show Generation.Run.fault? _ = none from hfault]
      exact ⟨rfl, .inl (exitCode_of_inputErrors herrors)⟩
    | collected place entities s ho hc hw u r hp => rw [hnone] at hw; cases hw

/-- Arguments that were read name sources or a manifest. -/
theorem unnamed_of_read {args : List String} (hargs : Arguments.read args = .ok a) (h : inputNote? a = none) :
    a.manifest = some "" ∧ a.sources = none := by
  -- Arguments that name neither are refused by the reader.
  have hnamed : (a.sources.isNone && a.manifest.isNone) = false := by
    unfold Arguments.read at hargs
    cases hitems : classifyAll args with
    | error e => simp [hitems, bind, Except.bind] at hargs
    | ok items =>
      cases hread : readItems {} items with
      | error e => simp [hitems, hread, bind, Except.bind] at hargs
      | ok r =>
        simp only [hitems, hread, bind, Except.bind] at hargs
        split at hargs
        · cases hargs
        · rename_i hsome
          split at hargs
          · cases hargs
          · rw [← Except.ok.inj hargs]
            exact Bool.eq_false_iff.mpr hsome
  unfold inputNote? at h
  cases hmanifest : a.manifest with
  | none =>
    cases hsources : a.sources with
    | none => simp [hmanifest, hsources] at hnamed
    | some sources => simp [hmanifest, hsources] at h
  | some manifest =>
    cases hsources : a.sources with
    | none => simpa [hmanifest, hsources] using h
    | some sources =>
      simp only [hmanifest, hsources, Option.map_some] at h
      split at h <;> cases h

/-- So it does with arguments that come from a command line, whatever stops it first. -/
theorem run_refused {args : List String} (hargs : Arguments.read args = .ok a) (hm : InManifest t a inManifest)
    (hmapping : settingsMapping t a = .ok mapping) (hr : ∀ s, Settings.ofLayers [inManifest, mapping] ≠ .ok s) :
    EndsEarly t a (run t args) := by
  have harguments : EndsEarly t a (runArguments t a) := by
    unfold runArguments
    dsimp only
    split
    · exact ⟨rfl, .inl rfl⟩
    · split
      · rename_i e he
        split at he
        · obtain ⟨text, htext, he⟩ := resolve_error_of_mapM he
          exact ⟨rfl, .inr ⟨rfl, .output htext he⟩⟩
        · cases he
      · rename_i output hout
        have hplace : ∀ place, output = some place →
            ∃ text, a.output = some text ∧ t.resolve (Path.ofText text) = .ok place := by
          rintro place rfl
          split at hout
          · exact resolve_ok_of_mapM hout
          · cases hout
        split
        · obtain ⟨hmanifest, hsources⟩ := unnamed_of_read hargs ‹_›
          exact ⟨rfl, .inr ⟨rfl, .unnamed hmanifest hsources⟩⟩
        · rw [hmapping]
          exact runWith_refused hm hr hplace _
  unfold run
  rw [hargs]
  exact harguments

/-! ## All runs -/

/-- A mapping has a key that is no setting, or a value that wins is not accepted. -/
def Refused (a : Arguments) (file inManifest : Mapping) : Prop :=
  (∃ m ∈ [inManifest, file], ∃ e ∈ m, ¬ IsNamed settingNames e.1) ∨
    ∃ name ∈ settingNames, ∃ v, given? a file inManifest name = some v ∧ ¬ Accepts name v

theorem refused_iff : (∀ s, Settings.ofLayers [inManifest, merge [file, argumentSettings a]] ≠ .ok s) ↔
    Refused a file inManifest := by
  have hok : (∃ s, Settings.ofLayers [inManifest, merge [file, argumentSettings a]] = .ok s) ↔
      AllNamed [inManifest, file] ∧
        ∀ name ∈ settingNames, ∀ v, given? a file inManifest name = some v → Accepts name v := by
    simp only [ofLayers_eq_ok, exists_and_left, Settings.exists_governs]
  have hnot : (∀ s, Settings.ofLayers [inManifest, merge [file, argumentSettings a]] ≠ .ok s) ↔
      ¬ ∃ s, Settings.ofLayers [inManifest, merge [file, argumentSettings a]] = .ok s := not_exists.symm
  rw [hnot, hok, not_and_or]
  simp only [AllNamed, Refused, not_forall, exists_prop]

/-- The arguments come to an input with these settings: sources to be searched with them, or a manifest that, if its
  entities are accepted, comes to these and the settings. -/
def WorksWith (t : Tree) (a : Arguments) (mapping : Mapping) (s : Settings) : Prop :=
  (a.manifest = none → inputOf t a mapping = .ok (.sources ((a.sources.getD []).map Path.ofText) s)) ∧
    ∀ manifest path document o entities, a.manifest = some manifest → t.resolve (Path.ofText manifest) = .ok path →
      Manifest.loadDocument t path = .ok document → Manifest.outline document = .ok o → entitiesOf path o = .ok entities →
      inputOf t a mapping = .ok (.manifest path mapping) ∧ collected? t (.manifest path mapping) = some (entities, s)

theorem worksWith (hm : InManifest t a inManifest) (hs : Settings.ofLayers [inManifest, mapping] = .ok s) :
    WorksWith t a mapping s := by
  constructor
  · intro h
    cases hm with
    | unnamed => rw [inputOf_of_sources h, hs]
    | named h' => rw [h] at h'; cases h'
  · intro manifest path document o entities h hp hd ho he
    refine ⟨inputOf_of_manifest h hp, ?_⟩
    cases hm with
    | unnamed h' => rw [h] at h'; cases h'
    | named h' hp' hd' ho' =>
      obtain rfl := Option.some.inj (h.symm.trans h')
      obtain rfl := Except.ok.inj (hp.symm.trans hp')
      obtain rfl := Except.ok.inj (hd.symm.trans hd')
      obtain rfl := Except.ok.inj (ho.symm.trans ho')
      rw [collected?_of_manifest hd ho, he, hs]

theorem ofLayers_of_collected {input : Input} {entities : List Entity} (hm : InManifest t a inManifest)
    (hi : inputOf t a mapping = .ok input) (hc : collected? t input = some (entities, s)) :
    Settings.ofLayers [inManifest, mapping] = .ok s := by
  cases hm with
  | unnamed h =>
    rw [inputOf_of_sources h] at hi
    cases hlayers : Settings.ofLayers [[], mapping] with
    | error r => rw [hlayers] at hi; cases hi
    | ok s' =>
      rw [hlayers] at hi
      cases hi
      unfold collected? at hc
      dsimp only at hc
      split at hc
      · cases hc
      · cases hc; rfl
  | named h hp hd ho =>
    rw [inputOf_of_manifest h hp] at hi
    cases hi
    rw [collected?_of_manifest hd ho] at hc
    split at hc
    · rename_i hlayers
      cases hc
      exact hlayers
    · cases hc

/-- Each setting of a run has the value of the arguments if they give one, else that of the file of settings, else
  that of the manifest, else its default; only the value that wins is checked. The settings are refused exactly if
  a mapping has a key that is no setting or a value that wins is not accepted, and then the run is an input
  error that changes nothing, unless it is at a loss for a path before it looks at settings. Settings from any
  layers are those of the layers merged to one, and layers without entries count for nothing. -/
theorem settings_settled {args : List String} (hargs : Arguments.read args = .ok a) (hf : InFile t a file)
    (hm : InManifest t a inManifest) :
    (∃ mapping, settingsMapping t a = .ok mapping ∧
      (∀ s, Settings.ofLayers [inManifest, mapping] = .ok s ↔
        AllNamed [inManifest, file] ∧ Governs (given? a file inManifest) s) ∧
      (∀ input output entities s, inputOf t a mapping = .ok input →
        (Generation.run t (options a) input output).2.1.work = some (entities, s) →
        Governs (given? a file inManifest) s) ∧
      (Refused a file inManifest → EndsEarly t a (run t args)) ∧
      (¬ Refused a file inManifest → ∃ s, Governs (given? a file inManifest) s ∧ WorksWith t a mapping s)) ∧
    (∀ layers, Settings.ofLayers [merge layers] = Settings.ofLayers layers) ∧
    ∀ before after, Settings.ofLayers (before ++ [] :: after) = Settings.ofLayers (before ++ after) := by
  refine ⟨⟨_, settingsMapping_of_inFile hf, ofLayers_eq_ok a file inManifest, ?_, fun hr => ?_, fun hr => ?_⟩,
    Settings.ofLayers_merge, Settings.ofLayers_empty⟩
  · intro input output entities s hi hwork
    have hlayers := ofLayers_of_collected hm hi (collected_of_work hwork)
    exact ((ofLayers_eq_ok a file inManifest s).mp hlayers).2
  · exact run_refused hargs hm (settingsMapping_of_inFile hf) (refused_iff.mpr hr)
  · obtain ⟨s, hs⟩ : ∃ s, Settings.ofLayers [inManifest, merge [file, argumentSettings a]] = .ok s := by
      by_contra hnone
      exact hr (refused_iff.mp (not_exists.mp hnone))
    exact ⟨s, ((ofLayers_eq_ok a file inManifest s).mp hs).2, worksWith hm hs⟩

/-- The manifest gives a language that is none, and the file another. -/
def layeredManifest : String :=
  "\x7b\"entities\": [], \"config\": \x7b\"language\": 7, \"namespace\": \"\", \"module_suffix\": \"_m\"\x7d\x7d\n"

def layeredFile : String := "\x7b\"language\": \"csharp\", \"namespace\": \"File\"\x7d\n"

def layeredTree : Tree :=
  ⟨[], [(["m.json"], .file (Utf8.encode layeredManifest)), (["c.json"], .file (Utf8.encode layeredFile))]⟩

def manifestPart : Mapping := [(.text "language", .int 7), (.text "namespace", .text ""), (.text "module_suffix", .text "_m")]

def filePart : Mapping := [(.text "language", .text "csharp"), (.text "namespace", .text "File")]

/-- Its files are found by their names, and hold what their texts say. -/
theorem loaded_layered {name text : String} {document : Mapping} (hn : Tree.IsEntryName name)
    (hg : layeredTree.get? [name] = some (.file (Utf8.encode text))) (hplain : '\r' ∉ text.toList)
    (hsuffix : Manifest.suffixOf ⟨"/", [name]⟩ = ".json")
    (hread : Manifest.ofJson (⟨"/", [name]⟩ : Path).text text = .ok document) :
    layeredTree.resolve (Path.ofText name) = .ok ⟨"/", [name]⟩ ∧
      Manifest.loadDocument layeredTree ⟨"/", [name]⟩ = .ok document := by
  constructor
  · have hnull : Tree.hasNull ⟨"", [name]⟩ = false := by
      simpa only [Tree.hasNull, List.any_cons, List.any_nil, Bool.or_false] using hn.notNull
    have hplace : layeredTree.resolveNames layeredTree.entries.length [] [] [name] = .ok [name] := by
      rw [Tree.resolveNames, if_neg (by simpa using hn.notHere), if_neg (by simpa using hn.notUp), List.nil_append, hg]
      exact Tree.resolveNames.eq_1 ..
    rw [hn.ofText, Tree.resolve, hnull, if_neg Bool.false_ne_true, show layeredTree.startOf ⟨"", [name]⟩ = [] from rfl, hplace]
  · have hroot : Tree.IsDirectory layeredTree [] := ⟨List.forall_mem_nil _, fun n => by rw [List.take_nil]; rfl⟩
    exact (Manifest.loadDocument_of_find hsuffix hplain (Tree.find_file hroot hn hg true)).trans hread

/-- The arguments win over the file and the file over the manifest, whose language is not looked at. -/
theorem settings_settled_layered :
    let a : Arguments :=
      { manifest := some "m.json", config := some "c.json", namespaceName := some "Flag", validateOnly := true }
    Arguments.read ["--manifest", "m.json", "--config", "c.json", "--namespace", "Flag", "--validate-only"] = .ok a ∧
      InFile layeredTree a filePart ∧ InManifest layeredTree a manifestPart ∧
      ∃ mapping, settingsMapping layeredTree a = .ok mapping ∧ Settings.ofLayers [manifestPart, mapping] =
        .ok { language := .csharp, namespaceName := "Flag", moduleSuffix := "_m" } := by
  intro a
  have hargs : Arguments.read ["--manifest", "m.json", "--config", "c.json", "--namespace", "Flag", "--validate-only"] =
      .ok a := by decide +kernel
  have hf : InFile layeredTree a filePart := by
    obtain ⟨hpath, hdocument⟩ := @loaded_layered "c.json" layeredFile filePart (by decide)
      (by simp [layeredTree, Tree.get?, Data.Entries.get?]) (by decide) (by decide) (by cbv)
    exact .named rfl hpath hdocument rfl
  have hm : InManifest layeredTree a manifestPart := by
    obtain ⟨hpath, hdocument⟩ := @loaded_layered "m.json" layeredManifest
      [(.text "entities", .list []), (.text "config", .map manifestPart)] (by decide)
      (by simp [layeredTree, Tree.get?, Data.Entries.get?]) (by decide) (by decide) (by cbv)
    exact .named rfl hpath hdocument rfl
  have hnamed : AllNamed [manifestPart, filePart] := by
    have hnames : settingNames = ["language", "namespace", "marker_name", "module_suffix", "mixin_suffix",
      "coerce_malformed_fields", "include_hidden", "exclude"] := rfl
    simp only [AllNamed, manifestPart, filePart, IsNamed, hnames, List.forall_mem_cons]
    simp
  obtain ⟨⟨mapping, hmapping, hlayers, -⟩, -⟩ := settings_settled hargs hf hm
  exact ⟨hargs, hf, hm, mapping, hmapping, (hlayers _).mpr ⟨hnamed, rfl, rfl, rfl, rfl, rfl, rfl, rfl, rfl⟩⟩

end CrudQueries.CommandLine
