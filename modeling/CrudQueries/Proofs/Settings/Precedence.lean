/-
  CrudQueries.Proofs.Settings.Precedence — settings from several layers, of which later ones win.

  A setting has the value of the last layer that gives one, after its check, or else its default
  (`Governs`, `ofLayers_eq_ok`). No other value of any layer matters: layers are refused exactly if one of them
  has a key that is no setting, or if a value that wins is not accepted (`ofLayers_refused_iff`). Merging layers
  beforehand changes nothing, and neither does a layer without entries (`ofLayers_merge`, `ofLayers_empty`).
-/

import CrudQueries.Proofs.Data.Mapping
import CrudQueries.Proofs.Record.Checked
import CrudQueries.Settings.Layers
import Mathlib.Data.List.Induction

namespace CrudQueries.Settings

open CrudQueries.Data (Value)
open CrudQueries.Data.Value (Apart IsNamed)
open Record

variable {entries layer : List (Value × Value)} {layers before after : List (List (Value × Value))} {name : String}
  {s : Settings} {v : Value}

/-! ## What layers give -/

/-- The value that the layers give a setting: that of the last one that has it, and of its entries the last. -/
def given? : List (List (Value × Value)) → String → Option Value
  | [], _ => none
  | layer :: rest, name => (given? rest name).or (Value.field? layer.reverse name)

theorem given?_append (before after : List (List (Value × Value))) (name : String) :
    given? (before ++ after) name = (given? after name).or (given? before name) := by
  induction before with
  | nil => rw [List.nil_append, given?, Option.or_none]
  | cons layer before ih => rw [List.cons_append, given?, given?, ih, Option.or_assoc]

theorem merge_append (before after : List (List (Value × Value))) :
    merge (before ++ after) = after.foldl Value.overlay (merge before) := List.foldl_append

/-- A setting of merged layers is what the layers give it. -/
theorem field?_merge (layers : List (List (Value × Value))) (name : String) :
    Value.field? (merge layers) name = given? layers name := by
  induction layers using List.reverseRecOn with
  | nil => rfl
  | append_singleton layers layer ih =>
    rw [merge_append, given?_append, ← ih]
    exact Value.field?_overlay _ _ _

theorem forall_keys_merge {names : List String} : (∀ e ∈ merge layers, IsNamed names e.1) ↔
    ∀ layer ∈ layers, ∀ e ∈ layer, IsNamed names e.1 := by
  induction layers using List.reverseRecOn with
  | nil => simp [merge]
  | append_singleton layers layer ih =>
    have hlast : merge (layers ++ [layer]) = Value.overlay (merge layers) layer := merge_append _ _
    rw [hlast, Value.forall_keys_overlay, ih, List.forall_mem_append, List.forall_mem_singleton]

/-! ## Merging -/

theorem apart_merge (layers : List (List (Value × Value))) : Apart (merge layers) := by
  induction layers using List.reverseRecOn with
  | nil => exact .nil
  | append_singleton layers layer ih =>
    rw [merge_append]
    exact ih.overlay layer

/-- The first layers may be merged beforehand. -/
theorem merge_merge (before after : List (List (Value × Value))) :
    merge (merge before :: after) = merge (before ++ after) := by
  have hfirst : Value.overlay [] (merge before) = merge before :=
    Value.overlay_of_apart (by rw [List.nil_append]; exact apart_merge before)
  rw [merge_append]
  exact congrArg (after.foldl Value.overlay ·) hfirst

theorem ofLayers_merge (layers : List (List (Value × Value))) : ofLayers [merge layers] = ofLayers layers := by
  unfold ofLayers
  rw [merge_merge, List.append_nil]

/-- A layer without entries counts for nothing. -/
theorem ofLayers_empty (before after : List (List (Value × Value))) :
    ofLayers (before ++ [] :: after) = ofLayers (before ++ after) := by
  unfold ofLayers
  rw [merge_append, merge_append]
  rfl

/-! ## Settings -/

/-- What a setting comes to: what its check makes of the value that is given, or its default. -/
def Settled {α : Type} (check : Check α) (default : α) : Option Value → α → Prop
  | some v, x => check v = .ok x
  | none, x => x = default

/-- The settings for which these values are given. -/
structure Governs (given : String → Option Value) (s : Settings) : Prop where
  language : Settled Language.check default.language (given "language") s.language
  namespaceName : Settled Check.filledText default.namespaceName (given "namespace") s.namespaceName
  markerName : Settled Check.filledText default.markerName (given "marker_name") s.markerName
  moduleSuffix : Settled Check.text default.moduleSuffix (given "module_suffix") s.moduleSuffix
  mixinSuffix : Settled Check.filledText default.mixinSuffix (given "mixin_suffix") s.mixinSuffix
  coerceMalformed : Settled Check.truth default.coerceMalformed (given "coerce_malformed_fields") s.coerceMalformed
  includeHidden : Settled Check.truth default.includeHidden (given "include_hidden") s.includeHidden
  exclude : Settled checkExclude default.exclude (given "exclude") s.exclude

theorem Settled.unique {α : Type} {check : Check α} {default x y : α} {given : Option Value}
    (hx : Settled check default given x) (hy : Settled check default given y) : x = y := by
  cases given with
  | none => exact Eq.trans hx (Eq.symm hy)
  | some v => exact Checked.ok.inj (Eq.trans (Eq.symm hx) hy)

/-- There are no others. -/
theorem Governs.unique {given : String → Option Value} {s' : Settings} (h : Governs given s) (h' : Governs given s') :
    s = s' := by
  obtain ⟨h1, h2, h3, h4, h5, h6, h7, h8⟩ := h
  obtain ⟨h1', h2', h3', h4', h5', h6', h7', h8'⟩ := h'
  cases s
  cases s'
  rw [mk.injEq]
  exact ⟨h1.unique h1', h2.unique h2', h3.unique h3', h4.unique h4', h5.unique h5', h6.unique h6', h7.unique h7',
    h8.unique h8'⟩

/-- The names of the settings. -/
def settingNames : List String := recordFields.map (·.name)

theorem optional_iff {α : Type} {check : Check α} {default x : α} :
    optional (.of name) default check entries = .ok x ↔ Settled check default (Value.field? entries name) x := by
  rw [optional_eq_ok, FieldName.value?_of]
  cases Value.field? entries name <;> exact Iff.rfl

/-- An entry gives a setting if its key is the name of one. -/
theorem gives_iff {e : Value × Value} (he : e ∈ entries) : Gives recordFields entries e.1 ↔ IsNamed settingNames e.1 := by
  have hfind (n : String) : (FieldName.of n).find? entries = (Value.field? entries n).map fun v => (n, v) := by
    unfold FieldName.find? FieldName.of
    cases Value.field? entries n <;> rfl
  constructor
  · rintro ⟨field, hf, name, v, hfound, hkey⟩
    obtain ⟨n, hn, rfl⟩ := List.mem_map.mp hf
    rw [hfind] at hfound
    obtain ⟨w, -, hw⟩ := Option.map_eq_some_iff.mp hfound
    obtain ⟨rfl, -⟩ := Prod.mk.inj hw
    exact ⟨n, List.mem_map.mpr ⟨.of n, hf, rfl⟩, hkey⟩
  · rintro ⟨n, hn, hkey⟩
    obtain ⟨field, hf, rfl⟩ := List.mem_map.mp hn
    obtain ⟨n, -, rfl⟩ := List.mem_map.mp hf
    obtain ⟨v, hv⟩ : ∃ v, Value.field? entries n = some v :=
      Option.isSome_iff_exists.mp (Value.field?_isSome_of_mem he hkey)
    exact ⟨.of n, hf, n, v, by rw [hfind, hv]; rfl, hkey⟩

theorem ofEntries_eq_ok : ofEntries entries = .ok s ↔
    (∀ e ∈ entries, IsNamed settingNames e.1) ∧ Governs (Value.field? entries) s := by
  rw [ofEntries, closed_eq_ok, and_comm]
  refine and_congr (forall₂_congr fun e he => gives_iff he) ?_
  simp only [Checked.app_eq_ok, Checked.fmap_eq_ok, optional_iff]
  constructor
  · rintro ⟨_, ⟨_, ⟨_, ⟨_, ⟨_, ⟨_, ⟨_, ⟨_, h1, rfl⟩, _, h2, rfl⟩, _, h3, rfl⟩, _, h4, rfl⟩, _, h5, rfl⟩,
      _, h6, rfl⟩, _, h7, rfl⟩, _, h8, rfl⟩
    exact ⟨h1, h2, h3, h4, h5, h6, h7, h8⟩
  · rintro ⟨h1, h2, h3, h4, h5, h6, h7, h8⟩
    exact ⟨_, ⟨_, ⟨_, ⟨_, ⟨_, ⟨_, ⟨_, ⟨_, h1, rfl⟩, _, h2, rfl⟩, _, h3, rfl⟩, _, h4, rfl⟩, _, h5, rfl⟩,
      _, h6, rfl⟩, _, h7, rfl⟩, _, h8, rfl⟩

/-- Layers are accepted if all their keys are settings, and the values that win are. -/
theorem ofLayers_eq_ok : ofLayers layers = .ok s ↔
    (∀ layer ∈ layers, ∀ e ∈ layer, IsNamed settingNames e.1) ∧ Governs (given? layers) s := by
  have hgiven : Value.field? (merge layers) = given? layers := funext (field?_merge layers)
  rw [ofLayers, Checked.toExcept_eq_ok, ofEntries_eq_ok, forall_keys_merge, hgiven]

/-! ## Refusal -/

/-- The check of a setting accepts a value. -/
def Accepts (name : String) (v : Value) : Prop := ∃ s, default.assign? name v = some (.ok s)

theorem accepts_iff {α : Type} {check : Check α} {set : α → Settings}
    (h : default.assign? name v = some ((check v).map set)) : Accepts name v ↔ ∃ x, check v = .ok x := by
  unfold Accepts
  rw [h]
  simp only [Option.some.injEq, Checked.map_eq_ok]
  constructor
  · rintro ⟨_, x, hx, -⟩
    exact ⟨x, hx⟩
  · rintro ⟨x, hx⟩
    exact ⟨_, x, hx, rfl⟩

/-- A setting comes to something unless a value is given that its check does not accept. -/
theorem exists_settled {α : Type} {check : Check α} {set : α → Settings} (default : α) {given : String → Option Value}
    (h : ∀ v, Settings.default.assign? name v = some ((check v).map set)) :
    (∃ x, Settled check default (given name) x) ↔ ∀ v, given name = some v → Accepts name v := by
  cases given name with
  | none =>
    constructor
    · rintro - v ⟨⟩
    · exact fun _ => ⟨default, rfl⟩
  | some w =>
    simp only [Option.some.injEq, forall_eq', accepts_iff (h w)]
    exact Iff.rfl

theorem exists_governs {given : String → Option Value} :
    (∃ s, Governs given s) ↔ ∀ name ∈ settingNames, ∀ v, given name = some v → Accepts name v := by
  have hnames : settingNames = ["language", "namespace", "marker_name", "module_suffix", "mixin_suffix",
    "coerce_malformed_fields", "include_hidden", "exclude"] := rfl
  simp only [hnames, List.forall_mem_cons, List.not_mem_nil, false_implies, implies_true, and_true]
  rw [← exists_settled default.language fun _ => rfl, ← exists_settled default.namespaceName fun _ => rfl,
    ← exists_settled default.markerName fun _ => rfl, ← exists_settled default.moduleSuffix fun _ => rfl,
    ← exists_settled default.mixinSuffix fun _ => rfl, ← exists_settled default.coerceMalformed fun _ => rfl,
    ← exists_settled default.includeHidden fun _ => rfl, ← exists_settled default.exclude fun _ => rfl]
  constructor
  · rintro ⟨s, h⟩
    exact ⟨⟨_, h.language⟩, ⟨_, h.namespaceName⟩, ⟨_, h.markerName⟩, ⟨_, h.moduleSuffix⟩, ⟨_, h.mixinSuffix⟩,
      ⟨_, h.coerceMalformed⟩, ⟨_, h.includeHidden⟩, ⟨_, h.exclude⟩⟩
  · rintro ⟨⟨_, h1⟩, ⟨_, h2⟩, ⟨_, h3⟩, ⟨_, h4⟩, ⟨_, h5⟩, ⟨_, h6⟩, ⟨_, h7⟩, ⟨_, h8⟩⟩
    exact ⟨⟨_, _, _, _, _, _, _, _⟩, h1, h2, h3, h4, h5, h6, h7, h8⟩

/-- Layers are refused exactly if one of them has a key that is no setting, or a value that wins is not accepted. -/
theorem ofLayers_refused_iff : (∃ r, ofLayers layers = .error r) ↔
    (∃ layer ∈ layers, ∃ e ∈ layer, ¬ IsNamed settingNames e.1) ∨
      ∃ name ∈ settingNames, ∃ v, given? layers name = some v ∧ ¬ Accepts name v := by
  have hok : (∃ s, ofLayers layers = .ok s) ↔ (∀ layer ∈ layers, ∀ e ∈ layer, IsNamed settingNames e.1) ∧
      ∀ name ∈ settingNames, ∀ v, given? layers name = some v → Accepts name v := by
    simp only [ofLayers_eq_ok, exists_and_left, exists_governs]
  have hsplit : (∃ r, ofLayers layers = .error r) ↔ ¬ ∃ s, ofLayers layers = .ok s := by
    cases ofLayers layers <;> simp
  rw [hsplit, hok, not_and_or]
  simp only [not_forall, exists_prop]

end CrudQueries.Settings
