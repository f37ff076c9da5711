/-
  CrudQueries.Proofs.Generation.Coverage — whose SQL a run reports.

  Files are kept by path and SQL by the name of its type. Under a name the report has the SQL of the last type
  that is generated with this name and has a known table (`get?_artifacts`). So it covers every type exactly if no
  two generated types of one name have different SQL (`artifacts_cover_iff`). In C# no two have one name, since a
  file is named for its type. In Python they may lie in two packages; validation lets both pass, each has a
  fragment that evaluates to its own SQL, and the report has that of one of them (`artifacts_overwritten`).
-/

import CrudQueries.Proofs.Fragment.Constants
import CrudQueries.Proofs.Generation.Distinct
import CrudQueries.Proofs.Query.Alignment

namespace CrudQueries.Generation

open CrudQueries.Data
open CrudQueries.Files (Path Tree)
open CrudQueries.Fragment (StaysOnLine assignments evaluate knownTable? render)
open CrudQueries.Query (Artifacts)
open CrudQueries.Validation (full pathKey)

variable {settings : Settings} {entities : List Entity} {e : Entity} {table : String}

/-! ## SQL by name -/

/-- A type with fields has SQL if its table is known. -/
theorem sql?_known (hf : e.fields ≠ []) (ht : knownTable? e = some table) :
    ∃ a, Artifacts.build e.typeName e.fields table = .ok a ∧ sql? e = some a := by
  obtain ⟨a, ha⟩ := Query.build_eq_ok e.typeName table hf
  exact ⟨a, ha, by rw [sql?, ht, Option.bind_some, ha]; rfl⟩

theorem artifacts_synthesise :
    (synthesise settings (full entities settings) entities).artifacts =
      Entries.putAll [] ((generatedEntities settings entities).filterMap fun e => (sql? e).map (e.typeName, ·)) := by
  refine congrArg (Entries.putAll []) ?_
  rw [List.filterMap_eq_flatMap_toList, flatMap_generated _ (fun _ => rfl) (fun _ => rfl),
    List.filterMap_eq_flatMap_toList]
  refine List.flatMap_congr fun e _ => ?_
  cases sql? e <;> rfl

/-- The last of the types with a name whose table is known. -/
def lastNamed? (entities : List Entity) (name : String) : Option Entity :=
  entities.reverse.find? fun e => e.typeName == name && (sql? e).isSome

theorem get?_filterMap (entities : List Entity) (name : String) :
    Entries.get? (entities.filterMap fun e => (sql? e).map (e.typeName, ·)) name =
      (entities.find? fun e => e.typeName == name && (sql? e).isSome).bind sql? := by
  induction entities with
  | nil => rfl
  | cons e entities ih =>
    cases hs : sql? e with
    | none => simpa [hs] using ih
    | some a =>
      rw [List.filterMap_cons_some (by rw [hs]; rfl), List.find?_cons]
      by_cases hn : e.typeName = name
      · simp [Entries.get?, hn, hs]
      · have hb : (e.typeName == name) = false := by simpa using hn
        rw [Entries.get?, List.find?_cons]
        simp only [hb, Bool.false_and]
        exact ih

/-- Under a name there is the SQL of the last type of that name. -/
theorem get?_artifacts (name : String) :
    Entries.get? (synthesise settings (full entities settings) entities).artifacts name =
      (lastNamed? (generatedEntities settings entities) name).bind sql? := by
  rw [artifacts_synthesise, Entries.get?_putAll, ← List.filterMap_reverse, get?_filterMap]
  exact Option.or_none

/-- A type with SQL is the last of its name, or there is a later one. -/
theorem lastNamed?_eq {a : Artifacts} (he : e ∈ entities) (ha : sql? e = some a) :
    ∃ last ∈ entities, ∃ b, lastNamed? entities e.typeName = some last ∧ last.typeName = e.typeName ∧
      sql? last = some b := by
  have hsome : (lastNamed? entities e.typeName).isSome := by
    rw [lastNamed?, List.find?_isSome]
    exact ⟨e, List.mem_reverse.mpr he, by simp [ha]⟩
  obtain ⟨last, hlast⟩ := Option.isSome_iff_exists.mp hsome
  have hkept := List.find?_some hlast
  rw [Bool.and_eq_true, beq_iff_eq, Option.isSome_iff_exists] at hkept
  obtain ⟨hname, b, hb⟩ := hkept
  exact ⟨last, List.mem_reverse.mp (List.mem_of_find?_eq_some hlast), b, hlast, hname, hb⟩

/-- Each of the types finds its own SQL under its name. -/
def Covers (artifacts : List (String × Artifacts)) (entities : List Entity) : Prop :=
  ∀ e ∈ entities, ∀ table, knownTable? e = some table →
    ∃ a, Artifacts.build e.typeName e.fields table = .ok a ∧ Entries.get? artifacts e.typeName = some a

/-- No two of the types have one name and different SQL. -/
def HaveOneSql (entities : List Entity) : Prop :=
  ∀ d ∈ entities, ∀ e ∈ entities, ∀ a b, d.typeName = e.typeName → sql? d = some a → sql? e = some b → a = b

theorem covers_iff :
    Covers (synthesise settings (full entities settings) entities).artifacts (generatedEntities settings entities) ↔
      HaveOneSql (generatedEntities settings entities) := by
  constructor
  · intro hcovers
    have hlookup : ∀ e ∈ generatedEntities settings entities, ∀ a, sql? e = some a →
        Entries.get? (synthesise settings (full entities settings) entities).artifacts e.typeName = some a := by
      intro e he a ha
      obtain ⟨table, ht, -⟩ := Option.bind_eq_some_iff.mp ha
      obtain ⟨b, hbuild, hget⟩ := hcovers e he table ht
      obtain ⟨c, hbuild', hc⟩ := sql?_known (accepted_generated he).2.1 ht
      obtain rfl : b = c := Except.ok.inj (hbuild.symm.trans hbuild')
      rw [hget, ← hc, ha]
    intro d hd e he a b hname ha hb
    have h := hlookup d hd a ha
    rw [hname, hlookup e he b hb] at h
    exact (Option.some.inj h).symm
  · intro hone e he table ht
    obtain ⟨a, hbuild, ha⟩ := sql?_known (accepted_generated he).2.1 ht
    obtain ⟨last, hlast, b, hfind, hname, hb⟩ := lastNamed?_eq he ha
    refine ⟨a, hbuild, ?_⟩
    rw [get?_artifacts, hfind, Option.bind_some, hb, hone last hlast e he b a hname hb ha]

/-- In C# a type is alone with its name, since that is the name of its file. -/
theorem haveOneSql_csharp (hl : settings.language = .csharp) : HaveOneSql (generatedEntities settings entities) := by
  intro d hd e he a b hname ha hb
  have hpath : Fragment.path settings d = Fragment.path settings e := by
    simp only [Fragment.path, hl, Fragment.fileName, hname]
  have hnodup : ((generatedEntities settings entities).map fun e => pathKey (Fragment.path settings e)).Nodup :=
    List.pairwise_map.mpr (pairwise_generated settings entities)
  obtain rfl := List.inj_on_of_nodup_map hnodup hd he (congrArg pathKey hpath)
  exact Option.some.inj (ha.symm.trans hb)

/-! ## Fragments -/

/-- The fragment of a type that stays on its lines evaluates to the SQL of that type. -/
theorem evaluate_generated (hl : settings.language = .python) (he : e ∈ generatedEntities settings entities)
    (ht : knownTable? e = some table) (hline : StaysOnLine settings e table) :
    ∃ text a, (Fragment.path settings e, text) ∈ (synthesise settings (full entities settings) entities).files ∧
      Artifacts.build e.typeName e.fields table = .ok a ∧
      evaluate [] (assignments text) = some (a.constants.map fun (name, value) => (name, value.toList)).reverse := by
  obtain ⟨ha, hf, -⟩ := accepted_generated he
  obtain ⟨text, hrender, hfile⟩ := fragmentFiles_accepted ha hf
  obtain ⟨a, hbuild, -⟩ := sql?_known hf ht
  obtain rfl : Fragment.mixin settings e table = text := by
    have hb : e.fields.isEmpty = false := by simpa using hf
    simpa [render, hb, hl, ht] using hrender
  refine ⟨Fragment.mixin settings e table, a, ?_, hbuild, ?_⟩
  · rw [files_synthesise]
    exact List.mem_cons_of_mem _ (List.mem_flatMap.mpr ⟨e, he, by rw [hfile]; exact List.mem_singleton_self _⟩)
  · rw [Fragment.evaluate_mixin hline, Fragment.constants_of_build hbuild]
    simp [Function.comp_def]

/-! ## Runs -/

/-- Where a run comes to its fragments, its report has under a name the SQL of the last type that is generated with
  this name and has a known table. So the report covers every generated type exactly if no two of one name have
  different SQL, which in C# is always so; in Python the fragment of each type evaluates to its own SQL. -/
theorem artifacts_cover_iff (t : Tree) (options : Options) (input : Input) (output : Option Path) {s : Synthesis}
    (hs : (run t options input output).2.1.synthesis = some s) :
    ∃ entities settings,
      let r := (run t options input output).2.1
      let generated := generatedEntities settings entities
      r.work = some (entities, settings) ∧ r.report.generated = generated.map (·.typeName) ∧
        (∀ name, Entries.get? r.report.artifacts name = (lastNamed? generated name).bind sql?) ∧
        (Covers r.report.artifacts generated ↔ HaveOneSql generated) ∧
        (settings.language = .csharp → Covers r.report.artifacts generated) ∧
        (settings.language = .python → ∀ e ∈ generated, ∀ table, knownTable? e = some table →
          StaysOnLine settings e table → ∃ text a, Entries.get? r.report.files (Fragment.path settings e) = some text ∧
            Artifacts.build e.typeName e.fields table = .ok a ∧
            evaluate [] (assignments text) = some (a.constants.map fun (name, value) => (name, value.toList)).reverse ∧
            (HaveOneSql generated → Entries.get? r.report.artifacts e.typeName = some a)) := by
  obtain ⟨entities, settings, hw, -, -, rfl⟩ := (run_follows t options input output).1.synthesis s hs
  have hgenerated : (run t options input output).2.1.report.generated =
      (synthesise settings (full entities settings) entities).generated := by simp [Run.report, hs]
  have hfiles : (run t options input output).2.1.report.files =
      (synthesise settings (full entities settings) entities).files := by simp [Run.report, hs]
  have hartifacts : (run t options input output).2.1.report.artifacts =
      (synthesise settings (full entities settings) entities).artifacts := by simp [Run.report, hs]
  refine ⟨entities, settings, ?_⟩
  simp only [hgenerated, hfiles, hartifacts]
  refine ⟨hw, generated_synthesise, get?_artifacts, covers_iff, ?_, ?_⟩
  · intro hl
    exact covers_iff.mpr (haveOneSql_csharp hl)
  · intro hl e he table ht hline
    obtain ⟨text, a, hmem, hbuild, heval⟩ := evaluate_generated hl he ht hline
    refine ⟨text, a, get?_files hmem, hbuild, heval, fun hone => ?_⟩
    obtain ⟨b, hbuild', hget⟩ := covers_iff.mpr hone e he table ht
    rw [hget, Except.ok.inj (hbuild.symm.trans hbuild')]

/-- Two types of one name are covered if they are kept in one table with the same fields. -/
theorem artifacts_cover_iff_copied :
    let item (package : String) : Entity := ⟨"Item", "items", ["title"], [], 1, none, none, none, package⟩
    let r := (run ⟨[], []⟩ {} (.given [item "shop", item "admin"] {}) none).2.1
    (∃ s, r.synthesis = some s) ∧ r.report.generated = ["Item", "Item"] ∧
      Covers r.report.artifacts [item "shop", item "admin"] := by
  intro item r
  have hvalid : (full [item "shop", item "admin"] {}).hasErrors = false := by decide +kernel
  have ha : abort? {} (full [item "shop", item "admin"] {}) = none := by simp [abort?, hvalid]
  have hs : r.synthesis = some (synthesise {} (full [item "shop", item "admin"] {}) [item "shop", item "admin"]) := by
    simp only [r, run, Option.mapM_none, checkClean, collect, process, ha]
    rfl
  have hall : generatedEntities {} [item "shop", item "admin"] = [item "shop", item "admin"] :=
    generatedEntities_of_valid hvalid
  have hone : HaveOneSql [item "shop", item "admin"] := by
    have hsql : ∀ e ∈ [item "shop", item "admin"], sql? e = sql? (item "shop") := by
      intro e he
      rcases List.mem_pair.mp he with rfl | rfl <;> rfl
    intro d hd e he a b _ hda heb
    rw [hsql d hd] at hda
    rw [hsql e he, hda] at heb
    exact Option.some.inj heb
  obtain ⟨entities, settings, hw, hgenerated, -, hcovers, -, -⟩ := artifacts_cover_iff ⟨[], []⟩ {} _ none hs
  obtain ⟨rfl, rfl⟩ : entities = [item "shop", item "admin"] ∧ settings = {} := by
    have hwork : r.work = some ([item "shop", item "admin"], {}) := by
      simp only [r, run, Option.mapM_none, checkClean, collect, process, ha]
      rfl
    exact Prod.mk.inj (Option.some.inj (hw.symm.trans hwork))
  rw [hall] at hgenerated hcovers
  exact ⟨⟨_, hs⟩, hgenerated, hcovers.mpr hone⟩

/-- Two types of one name in two packages pass, both have a fragment, and the report has the SQL of the second. -/
theorem artifacts_overwritten :
    let shop : Entity := ⟨"Item", "items", ["title"], [], 1, none, none, none, "shop"⟩
    let admin : Entity := ⟨"Item", "others", ["name"], [], 1, none, none, none, "admin"⟩
    let s := synthesise {} (full [shop, admin] {}) [shop, admin]
    (full [shop, admin] {}).hasErrors = false ∧ generatedEntities {} [shop, admin] = [shop, admin] ∧
      s.files.map (·.1) = ["query_fields.py", "shop/item_queries.py", "admin/item_queries.py"] ∧
      Entries.get? s.artifacts "Item" = sql? admin ∧ sql? admin ≠ sql? shop ∧ ¬ Covers s.artifacts [shop, admin] := by
  intro shop admin s
  have hvalid : (full [shop, admin] {}).hasErrors = false := by decide +kernel
  have hall : generatedEntities {} [shop, admin] = [shop, admin] := generatedEntities_of_valid hvalid
  have hdiffer : sql? admin ≠ sql? shop := by decide +kernel
  refine ⟨hvalid, hall, ?_, ?_, hdiffer, ?_⟩
  · rw [files_synthesise, List.map_cons, paths_generated, hall]
    decide +kernel
  · rw [get?_artifacts, hall]
    decide +kernel
  · intro hcovers
    rw [← hall] at hcovers
    have hone := covers_iff.mp hcovers
    rw [hall] at hone
    obtain ⟨a, -, ha⟩ : ∃ a, Artifacts.build shop.typeName shop.fields "items" = .ok a ∧ sql? shop = some a :=
      sql?_known (List.cons_ne_nil _ _) rfl
    obtain ⟨b, -, hb⟩ : ∃ b, Artifacts.build admin.typeName admin.fields "others" = .ok b ∧ sql? admin = some b :=
      sql?_known (List.cons_ne_nil _ _) rfl
    exact hdiffer (by rw [ha, hb, hone admin (by simp) shop (by simp) b a rfl hb ha])

end CrudQueries.Generation
