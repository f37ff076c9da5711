/-
  CrudQueries.Proofs.CommandLine.Mode — the exit code does not depend on what a run without output is for.

  Two lists of arguments that differ in one place, where one has the option to validate only and the other the one
  to show the files, are read alike: both are refused, both ask for help or the version, or both ask for the same run
  but for what it is for, and for one that writes nothing (`read_alike`). The proof goes along the items of the
  arguments; after two hyphens the two options are unknown arguments, and both lists are refused. Since
  validation predicts what rendering will come to, the two runs come to the same exit code
  (`validation_predicts_generation`).
-/

import CrudQueries.CommandLine.Run
import CrudQueries.Proofs.Generation.Prediction

namespace CrudQueries.CommandLine

open CrudQueries.Files (Path Tree)
open CrudQueries.Generation (Report)

/-! ## Stops -/

/-- The exit code of a stop. -/
def Stop.exitCode : Stop → Nat
  | .help | .version => 0
  | .refused _ => Report.inputFailed

/-- Both stop with one exit code, or both come to something, and to things so related. -/
inductive BothAlike {α : Type} (R : α → α → Prop) : Except Stop α → Except Stop α → Prop
  | stop {s s' : Stop} (h : s'.exitCode = s.exitCode) : BothAlike R (.error s) (.error s')
  | ok {a a' : α} (h : R a a') : BothAlike R (.ok a) (.ok a')

namespace BothAlike

variable {α β : Type} {R : α → α → Prop} {S : β → β → Prop}

theorem refl (x : Except Stop α) : BothAlike Eq x x := by
  cases x with
  | error s => exact .stop rfl
  | ok a => exact .ok rfl

theorem bind {x x' : Except Stop α} {f f' : α → Except Stop β} (h : BothAlike R x x')
    (hf : ∀ a a', R a a' → BothAlike S (f a) (f' a')) : BothAlike S (x >>= f) (x' >>= f') := by
  cases h with
  | stop h => exact .stop h
  | ok h => exact hf _ _ h

theorem foldlM {γ : Type} {f : α → γ → Except Stop α}
    (hf : ∀ a a' c, R a a' → BothAlike R (f a c) (f a' c)) (cs : List γ) {a a' : α} (h : R a a') :
    BothAlike R (cs.foldlM f a) (cs.foldlM f a') := by
  induction cs generalizing a a' with
  | nil => exact .ok h
  | cons c cs ih =>
    rw [List.foldlM_cons, List.foldlM_cons]
    exact (hf a a' c h).bind fun b b' hb => ih hb

end BothAlike

/-! ## Options -/

/-- Is the run one that writes nothing? -/
def Arguments.writesNothing (a : Arguments) : Bool := a.validateOnly || a.toStdout

/-- The same arguments but for what the run is for; where it matters, neither run writes. -/
structure Arguments.Alike (matters : Prop) (a a' : Arguments) : Prop where
  same : ∃ validateOnly toStdout, a' = { a with validateOnly, toStdout }
  quiet : matters → a.writesNothing = true ∧ a'.writesNothing = true

variable {matters : Prop} {a a' : Arguments}

theorem takeFlag_alike (h : a.Alike matters a') (f : Flag) :
    BothAlike (Arguments.Alike matters) (takeFlag a f) (takeFlag a' f) := by
  obtain ⟨⟨v, s, rfl⟩, hq⟩ := h
  cases f
  case help => exact .stop rfl
  case version => exact .stop rfl
  case validateOnly => exact .ok ⟨⟨true, s, rfl⟩, fun _ => ⟨rfl, rfl⟩⟩
  case stdout => exact .ok ⟨⟨v, true, rfl⟩, fun _ => ⟨Bool.or_true _, Bool.or_true _⟩⟩
  all_goals exact .ok ⟨⟨v, s, rfl⟩, hq⟩

theorem takeValue_alike (h : a.Alike matters a') (f : Flag) (value : String) :
    BothAlike (Arguments.Alike matters) (takeValue a f value) (takeValue a' f value) := by
  obtain ⟨⟨v, s, rfl⟩, hq⟩ := h
  -- Three options look at their value, and at nothing in which the two differ.
  cases f
  case source =>
    unfold takeValue
    simp only
    split
    · exact .stop rfl
    · exact .ok ⟨⟨v, s, rfl⟩, hq⟩
  case manifest =>
    unfold takeValue
    simp only
    split
    · exact .stop rfl
    · exact .ok ⟨⟨v, s, rfl⟩, hq⟩
  case language =>
    unfold takeValue
    simp only
    split
    · exact .ok ⟨⟨v, s, rfl⟩, hq⟩
    · exact .stop rfl
  all_goals exact .ok ⟨⟨v, s, rfl⟩, hq⟩

theorem Arguments.Alike.flags (h : a.Alike matters a') (flags : List Flag) :
    BothAlike (Arguments.Alike matters) (flags.foldlM takeFlag a) (flags.foldlM takeFlag a') :=
  BothAlike.foldlM (fun _ _ f h => takeFlag_alike h f) flags h

/-! ## Items -/

/-- The items of two lists of arguments that differ in one place: there the one has the option to validate only and
  the other the one to show the files, or after two hyphens two values. `met` says whether that place is behind. -/
inductive ItemsAlike : Bool → List Item → List Item → Prop
  | nil : ItemsAlike true [] []
  | cons {met : Bool} {rest rest' : List Item} (item : Item) (h : ItemsAlike met rest rest') :
    ItemsAlike met (item :: rest) (item :: rest')
  | here {rest rest' : List Item} (h : ItemsAlike true rest rest') :
    ItemsAlike false (.option .validateOnly "--validate-only" none :: rest) (.option .stdout "--stdout" none :: rest')
  | values {before after : List String} {v v' : String} :
    ItemsAlike false (.terminator :: (before ++ v :: after).map .value)
      (.terminator :: (before ++ v' :: after).map .value)

theorem ItemsAlike.refl (items : List Item) : ItemsAlike true items items := by
  induction items with
  | nil => exact .nil
  | cons item items ih => exact .cons item ih

/-- What has been read of the two lists: once the place is behind and there is no unknown argument, neither asks
  for a run that writes. -/
structure Reading.Alike (met : Bool) (r r' : Reading) : Prop where
  arguments : r.arguments.Alike (met = true ∧ r.extras = []) r'.arguments
  extras : r'.extras = [] ↔ r.extras = []

/-- An unknown argument settles what becomes of the others. -/
theorem Reading.alike_extra {met : Bool} (h : a.Alike matters a') {extras extras' : List String}
    (hne : extras ≠ [] ∧ extras' ≠ []) : Reading.Alike met ⟨a, extras⟩ ⟨a', extras'⟩ :=
  ⟨⟨h.same, fun hm => absurd hm.2 hne.1⟩, ⟨fun h => absurd h hne.2, fun h => absurd h hne.1⟩⟩

theorem readItems_values (r : Reading) (values : List String) :
    readItems r (values.map .value) = .ok { r with extras := r.extras ++ values } := by
  induction values generalizing r with
  | nil => rw [List.map_nil, readItems, List.append_nil]
  | cons v values ih =>
    rw [List.map_cons, readItems, ih]
    simp only [List.append_assoc, List.singleton_append]

theorem readItems_flag (r : Reading) {f : Flag} {a : Arguments} (name : String) (rest : List Item)
    (hf : f.takesValue = false) (ha : takeFlag r.arguments f = .ok a) :
    readItems r (.option f name none :: rest) = readItems { r with arguments := a } rest := by
  rw [readItems]
  simp [unjoin, hf, ha, bind, Except.bind, pure, Except.pure]

/-- An option that both lists have is read alike, and so is the value after it that it may take, if what comes then is
  read alike. -/
theorem readItems_option_alike {met : Bool} {f : Flag} {name : String} {attached : Option Attached}
    {rest rest' : List Item} {r r' : Reading} (h : ItemsAlike met rest rest') (hr : r.Alike met r')
    (hlater : ∀ {met : Bool} {items items' : List Item} {r r' : Reading}, items.length ≤ rest.length →
      ItemsAlike met items items' → r.Alike met r' →
        BothAlike (Reading.Alike true) (readItems r items) (readItems r' items')) :
    BothAlike (Reading.Alike true) (readItems r (.option f name attached :: rest))
      (readItems r' (.option f name attached :: rest')) := by
  rw [readItems, readItems]
  refine (BothAlike.refl _).bind ?_
  rintro ⟨flags, ending⟩ _ rfl
  have hflags := hr.arguments.flags flags
  cases ending with
  | complete => exact hflags.bind fun b b' hb => hlater (Nat.le_refl _) h ⟨hb, hr.extras⟩
  | unknown s => exact hflags.bind fun b b' hb => hlater (Nat.le_refl _) h (Reading.alike_extra hb (by simp))
  | value g v =>
    refine hflags.bind fun b b' hb => (takeValue_alike hb g v).bind fun c c' hc => ?_
    exact hlater (Nat.le_refl _) h ⟨hc, hr.extras⟩
  | awaits g =>
    -- Only a value that both lists have comes after it: where they differ there are options or hyphens.
    cases h with
    | nil | here | values => exact .stop rfl
    | cons next h =>
      cases next with
      | option | unknown | terminator => exact .stop rfl
      | value v =>
        refine hflags.bind fun b b' hb => (takeValue_alike hb g v).bind fun c c' hc => ?_
        exact hlater (by simp) h ⟨hc, hr.extras⟩

theorem readItems_alike {met : Bool} {items items' : List Item} (h : ItemsAlike met items items') {r r' : Reading}
    (hr : r.Alike met r') : BothAlike (Reading.Alike true) (readItems r items) (readItems r' items') := by
  -- An option may take the item after it, so the induction is on the number of items.
  induction hn : items.length using Nat.strongRecOn generalizing met items items' r r' with
  | ind n ih =>
    subst hn
    cases h with
    | nil =>
      rw [readItems, readItems]
      exact .ok hr
    | values =>
      rw [readItems, readItems, readItems_values, readItems_values]
      exact .ok (Reading.alike_extra hr.arguments (by simp))
    | here h =>
      rw [readItems_flag r _ _ rfl rfl, readItems_flag r' _ _ rfl rfl]
      obtain ⟨⟨v, s, hsame⟩, -⟩ := hr.arguments
      refine ih _ (Nat.lt_succ_self _) h ⟨⟨⟨v, true, ?_⟩, fun _ => ⟨rfl, Bool.or_true _⟩⟩, hr.extras⟩ rfl
      rw [hsame]
    | cons item h =>
      cases item with
      | value | unknown | terminator =>
        rw [readItems, readItems]
        exact ih _ (Nat.lt_succ_self _) h (Reading.alike_extra hr.arguments (by simp)) rfl
      | option f name attached =>
        exact readItems_option_alike h hr fun hlength h hr => ih _ (Nat.lt_succ_of_le hlength) h hr rfl

/-! ## Lists of arguments -/

theorem classifyAll_cons {s : String} (hs : s ≠ "--") (rest : List String) :
    classifyAll (s :: rest) =
      classify s >>= fun item => classifyAll rest >>= fun items => .ok (item :: items) := by
  rw [classifyAll]
  exact hs

theorem classifyAll_alike (before after : List String) :
    BothAlike (ItemsAlike false) (classifyAll (before ++ "--validate-only" :: after))
      (classifyAll (before ++ "--stdout" :: after)) := by
  induction before with
  | nil =>
    have hvalidate : classify "--validate-only" = .ok (.option .validateOnly "--validate-only" none) := by decide
    have hstdout : classify "--stdout" = .ok (.option .stdout "--stdout" none) := by decide
    rw [List.nil_append, List.nil_append, classifyAll_cons (by decide), classifyAll_cons (by decide), hvalidate,
      hstdout]
    refine (BothAlike.refl (classifyAll after)).bind ?_
    rintro items _ rfl
    exact .ok (.here (.refl items))
  | cons s before ih =>
    rw [List.cons_append, List.cons_append]
    by_cases hs : s = "--"
    · -- After two hyphens both lists have values alone.
      subst hs
      exact .ok .values
    · rw [classifyAll_cons hs, classifyAll_cons hs]
      refine (BothAlike.refl (classify s)).bind ?_
      rintro item _ rfl
      exact ih.bind fun items items' h => .ok (.cons item h)

theorem read_alike (before after : List String) :
    BothAlike (Arguments.Alike True) (Arguments.read (before ++ "--validate-only" :: after))
      (Arguments.read (before ++ "--stdout" :: after)) := by
  unfold Arguments.read
  refine (classifyAll_alike before after).bind fun items items' hitems => ?_
  have hstart : Reading.Alike false {} {} := ⟨⟨⟨false, false, rfl⟩, fun hm => by cases hm.1⟩, Iff.rfl⟩
  refine (readItems_alike hitems hstart).bind fun r r' hr => ?_
  obtain ⟨⟨v, s, hsame⟩, hquiet⟩ := hr.arguments
  rw [hsame]
  simp only
  split
  · exact .stop rfl
  · have hextras : r'.extras.isEmpty = r.extras.isEmpty := by
      rw [Bool.eq_iff_iff, List.isEmpty_iff, List.isEmpty_iff, hr.extras]
    rw [hextras]
    split
    · exact .stop rfl
    · rename_i hnone
      have hnone : r.extras = [] := by simpa using hnone
      exact .ok ⟨⟨v, s, rfl⟩, fun _ => hsame ▸ hquiet ⟨rfl, hnone⟩⟩

/-! ## Runs -/

theorem exitCode_runWith_eq (t : Tree) (a : Arguments) (output : Option Path) (settings : Manifest.Mapping)
    (log : List LogItem) :
    (runWith t a output settings log).exitCode =
      match inputOf t a settings with
      | .error .fault => faultCode
      | .error (.input _) => Report.inputFailed
      | .ok input =>
        match (Generation.run t (options a) input output).2.2 with
        | some _ => faultCode
        | none => (Generation.run t (options a) input output).2.1.report.exitCode := by
  unfold runWith
  cases inputOf t a settings with
  | error failure => cases failure <;> rfl
  | ok input =>
    simp only
    obtain ⟨u, r, fault⟩ := Generation.run t (options a) input output
    cases fault <;> rfl

/-- Two runs that write nothing and are the same but for what they are for come to one exit code. -/
theorem exitCode_runArguments_alike (t : Tree) (h : a.Alike True a') :
    (runArguments t a').exitCode = (runArguments t a).exitCode := by
  obtain ⟨hwrites, hwrites'⟩ := h.quiet trivial
  obtain ⟨v, s, hsame⟩ := h.same
  have hinput : inputNote? a' = inputNote? a := by rw [hsame]; rfl
  have hsettings : settingsMapping t a' = settingsMapping t a := by rw [hsame]; rfl
  have hrun (settings : Manifest.Mapping) (log log' : List LogItem) :
      (runWith t a' none settings log').exitCode = (runWith t a none settings log).exitCode := by
    have hof : inputOf t a' settings = inputOf t a settings := by rw [hsame]; rfl
    rw [exitCode_runWith_eq, exitCode_runWith_eq, hof]
    cases inputOf t a settings with
    | error failure => cases failure <;> rfl
    | ok input =>
      -- The mode is the one option in which they differ.
      have hoptions : options a' = { options a with validateOnly := v } := by rw [hsame]; rfl
      have hmode := Generation.exitCode_of_mode t (options a) v input
      rw [← hoptions] at hmode
      obtain ⟨hfault, hcode⟩ := hmode
      simp only
      rw [hfault, hcode]
  unfold Arguments.writesNothing at hwrites hwrites'
  unfold runArguments
  simp only [hwrites, hwrites', hinput, hsettings, Bool.not_true, Bool.false_and, Bool.false_eq_true, if_false]
  cases inputNote? a with
  | none => rfl
  | some first =>
    cases settingsMapping t a with
    | error failure => cases failure <;> rfl
    | ok settings => exact hrun _ _ _

theorem exitCode_run (t : Tree) (args : List String) :
    (run t args).exitCode =
      match Arguments.read args with
      | .error stop => stop.exitCode
      | .ok a => (runArguments t a).exitCode := by
  unfold run
  cases Arguments.read args with
  | error stop => cases stop <;> rfl
  | ok a => rfl

theorem exitCode_run_alike (t : Tree) (before after : List String) :
    (run t (before ++ "--validate-only" :: after)).exitCode = (run t (before ++ "--stdout" :: after)).exitCode := by
  rw [exitCode_run, exitCode_run]
  have h := read_alike before after
  generalize Arguments.read (before ++ "--validate-only" :: after) = x at h
  generalize Arguments.read (before ++ "--stdout" :: after) = x' at h
  cases h with
  | stop hcode => exact hcode.symm
  | ok h => exact (exitCode_runArguments_alike t h).symm

end CrudQueries.CommandLine
