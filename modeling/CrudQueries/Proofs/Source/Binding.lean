/-
  CrudQueries.Proofs.Source.Binding — what a name is bound to when the body of a class has been run.

  The statements of a body run in order (`Executes`). An assignment binds each of its targets in turn, whole to a
  name and in parts to the names of a tuple or list; an annotation without a value binds nothing; an augmented
  assignment binds a name to a value that is computed. The value of an expression is only known of a literal: any
  other may have every value (`Yields`). Statements that are no assignments are taken not to bind the name.

  So the last binding decides, whatever came before it (`executes_iff`). A text tells what the name is bound to
  exactly if it is the one that the last binding gives as a literal (`resolves_iff`).
-/

import CrudQueries.Source.Outline
import Mathlib.Data.List.Basic

namespace CrudQueries.Source

-- An empty sum is the numeral, whatever else is imported.
attribute [local instance (high)] Zero.ofOfNat0

/-! ## Running statements -/

/-- A text, or any other object. -/
inductive Value where
  | text (s : String)
  | object
  deriving DecidableEq

/-- The values that an expression can have. -/
inductive Yields : Expr → Value → Prop
  | text (s : String) : Yields (.text s) (.text s)
  | constant : Yields .constant .object
  | computed {e : Expr} (v : Value) (htext : ∀ s, e ≠ .text s) (hconstant : e ≠ .constant) : Yields e v

/-- What a name is bound to: nothing, the text of a literal that is assigned to it, or a value of another origin. -/
inductive Binding where
  | unbound
  | literal (s : String)
  | computed (v : Value)
  deriving DecidableEq

def Binding.value? : Binding → Option Value
  | .unbound => none
  | .literal s => some (.text s)
  | .computed v => some v

/-- The binding to a value `v` of an expression. -/
def Binding.ofExpr (v : Value) : Expr → Binding
  | .text s => .literal s
  | _ => .computed v

mutual

/-- The names that a target binds. -/
def Expr.boundNames : Expr → List String
  | .name s => [s]
  | .starred e => Expr.boundNames e
  | .tuple items | .list items => Expr.boundNamesOf items
  | _ => []

def Expr.boundNamesOf : List Expr → List String
  | [] => []
  | e :: rest => Expr.boundNames e ++ Expr.boundNamesOf rest

end

/-- What a target makes of the binding of a name when it is given the value `v` of an expression. -/
inductive Assigns (name : String) (value : Expr) (v : Value) : Expr → Binding → Binding → Prop
  | whole (b : Binding) : Assigns name value v (.name name) b (.ofExpr v value)
  | part {target : Expr} (b : Binding) (w : Value) (hname : target ≠ .name name) (h : name ∈ target.boundNames) :
      Assigns name value v target b (.computed w)
  | elsewhere {target : Expr} (b : Binding) (h : name ∉ target.boundNames) : Assigns name value v target b b

/-- The steps of a list, one after the other. -/
inductive Sequence {α σ : Type} (step : α → σ → σ → Prop) : List α → σ → σ → Prop
  | nil (b : σ) : Sequence step [] b b
  | cons {x : α} {xs : List α} {b b' b'' : σ} (h : step x b b') (hs : Sequence step xs b' b'') : Sequence step (x :: xs) b b''

/-- What a statement makes of the binding of a name. -/
inductive Runs (name : String) : Stmt → Binding → Binding → Prop
  | assign {targets : List Expr} {value : Expr} {v : Value} {b b' : Binding} (hv : Yields value v)
      (h : Sequence (Assigns name value v) targets b b') : Runs name (.assign targets value) b b'
  | annotate {target value : Expr} {v : Value} {b b' : Binding} (hv : Yields value v)
      (h : Assigns name value v target b b') : Runs name (.annotate target (some value)) b b'
  | declare (target : Expr) (b : Binding) : Runs name (.annotate target none) b b
  | augment (value : Expr) (b : Binding) (w : Value) : Runs name (.augment (.name name) value) b (.computed w)
  | augmentOther {target : Expr} (value : Expr) (b : Binding) (h : target ≠ .name name) :
      Runs name (.augment target value) b b
  | classDef (type : String) (line : Nat) (decorators : List Expr) (body : List Stmt) (b : Binding) :
      Runs name (.classDef type line decorators body) b b
  | block (body : List Stmt) (b : Binding) : Runs name (.block body) b b
  | other (b : Binding) : Runs name .other b b

/-- What the statements of a body make of the binding of a name. -/
abbrev Executes (name : String) : List Stmt → Binding → Binding → Prop := Sequence (Runs name)

/-! ## The last binding -/

/-- What a name is given: the value of an expression, or a value that is computed from one. -/
inductive Given where
  | value (e : Expr)
  | computed

namespace Given

/-- The values that can be given. -/
def Allows : Given → Value → Prop
  | .value e, v => Yields e v
  | .computed, _ => True

def binding : Given → Value → Binding
  | .value e, v => .ofExpr v e
  | .computed, v => .computed v

/-- The text that is given as a literal. -/
def text? : Given → Option String
  | .value e => e.text?
  | .computed => none

end Given

variable {name : String} {value target : Expr} {v : Value} {b b' : Binding} {last : Option Given}

/-- The binding after the last of several is `last`, if there is one, of those values that `allows` tells. -/
def Outcome (allows : Given → Value → Prop) : Option Given → Binding → Binding → Prop
  | none, b, b' => b' = b
  | some g, _, b' => ∃ v, allows g v ∧ b' = g.binding v

/-- What a target gives to a name. -/
def Expr.gives (name : String) (value target : Expr) : List Given :=
  if target.isNamed name then [.value value] else if name ∈ target.boundNames then [.computed] else []

/-- What a statement gives to a name, in order. -/
def Stmt.gives (name : String) : Stmt → List Given
  | .assign targets value => targets.flatMap (Expr.gives name value)
  | .annotate target (some value) => Expr.gives name value target
  | .augment target _ => if target.isNamed name then [.computed] else []
  | _ => []

/-- What the statements of a body give to a name, in order. -/
def bindings (name : String) (body : List Stmt) : List Given := body.flatMap (Stmt.gives name)

theorem isNamed_iff {e : Expr} : e.isNamed name = true ↔ e = .name name := by
  cases e with
  | name s => simp [Expr.isNamed, eq_comm (a := name)]
  | _ => simp [Expr.isNamed]

theorem exists_yields (e : Expr) : ∃ v, Yields e v := by
  cases e with
  | text s => exact ⟨_, .text s⟩
  | constant => exact ⟨_, .constant⟩
  | _ => exact ⟨.object, .computed _ (by simp) (by simp)⟩

/-- Bindings one after the other come to the last of them. -/
theorem outcome_append {allows : Given → Value → Prop} (hallows : ∀ g, ∃ v, allows g v) (l l' : List Given) :
    Outcome allows (l ++ l').getLast? b b' ↔ ∃ m, Outcome allows l.getLast? b m ∧ Outcome allows l'.getLast? m b' := by
  rw [List.getLast?_append]
  cases hl' : l'.getLast? with
  | none => simp [Outcome]
  | some g =>
    constructor
    · intro h
      cases hl : l.getLast? with
      | none => exact ⟨b, rfl, h⟩
      | some k =>
        obtain ⟨w, hw⟩ := hallows k
        exact ⟨k.binding w, ⟨w, hw, rfl⟩, h⟩
    · rintro ⟨_, -, h⟩
      exact h

theorem sequence_iff {α : Type} {step : α → Binding → Binding → Prop} {allows : Given → Value → Prop}
    (hallows : ∀ g, ∃ v, allows g v) {gives : α → List Given}
    (hstep : ∀ x b b', step x b b' ↔ Outcome allows (gives x).getLast? b b') (xs : List α) :
    Sequence step xs b b' ↔ Outcome allows (xs.flatMap gives).getLast? b b' := by
  induction xs generalizing b with
  | nil =>
    constructor
    · rintro ⟨⟩
      rfl
    · rintro rfl
      exact .nil _
  | cons x xs ih =>
    rw [List.flatMap_cons, outcome_append hallows]
    constructor
    · rintro (_ | ⟨h, hs⟩)
      exact ⟨_, (hstep _ _ _).mp h, ih.mp hs⟩
    · rintro ⟨m, h, hs⟩
      exact .cons ((hstep _ _ _).mpr h) (ih.mpr hs)

/-- While the targets of a statement are bound its value is a fixed one. -/
def Given.Is (v : Value) : Given → Value → Prop
  | .value _, w => w = v
  | .computed, _ => True

theorem Given.exists_is (v : Value) (g : Given) : ∃ w, g.Is v w := by
  cases g <;> exact ⟨v, by trivial⟩

theorem Given.exists_allows (g : Given) : ∃ v, g.Allows v := by
  cases g with
  | value e => exact exists_yields e
  | computed => exact ⟨.object, trivial⟩

theorem assigns_iff : Assigns name value v target b b' ↔ Outcome (Given.Is v) (Expr.gives name value target).getLast? b b' := by
  unfold Expr.gives
  split
  case isTrue h =>
    obtain rfl := isNamed_iff.mp h
    constructor
    · rintro (_ | ⟨_, w, hname, -⟩ | ⟨_, hno⟩)
      · exact ⟨v, rfl, rfl⟩
      · exact absurd rfl hname
      · simp [Expr.boundNames] at hno
    · rintro ⟨w, rfl, rfl⟩
      exact .whole b
  case isFalse h =>
    have hname : target ≠ .name name := fun heq => h (isNamed_iff.mpr heq)
    split
    case isTrue hmem =>
      constructor
      · rintro (_ | ⟨_, w, -, -⟩ | ⟨_, hno⟩)
        · exact absurd rfl hname
        · exact ⟨w, trivial, rfl⟩
        · exact absurd hmem hno
      · rintro ⟨w, -, rfl⟩
        exact .part b w hname hmem
    case isFalse hno =>
      constructor
      · rintro (_ | ⟨_, w, -, hmem⟩ | ⟨_, -⟩)
        · exact absurd rfl hname
        · exact absurd hmem hno
        · rfl
      · rintro rfl
        exact .elsewhere _ hno

theorem mem_gives {g : Given} (h : g ∈ Expr.gives name value target) : g = .value value ∨ g = .computed := by
  unfold Expr.gives at h
  split at h
  · exact Or.inl (List.mem_singleton.mp h)
  · split at h
    · exact Or.inr (List.mem_singleton.mp h)
    · cases h

/-- All that the targets of an assignment give is its value, or computed from it. -/
theorem mem_flatMap_gives {targets : List Expr} {g : Given} (h : g ∈ targets.flatMap (Expr.gives name value)) :
    g = .value value ∨ g = .computed := by
  obtain ⟨target, -, hg⟩ := List.mem_flatMap.mp h
  exact mem_gives hg

theorem outcome_of_value (hlast : ∀ g, last = some g → g = .value value ∨ g = .computed) :
    (∃ v, Yields value v ∧ Outcome (Given.Is v) last b b') ↔ Outcome Given.Allows last b b' := by
  obtain ⟨v₀, hv₀⟩ := exists_yields value
  cases last with
  | none => exact ⟨fun ⟨_, _, h⟩ => h, fun h => ⟨v₀, hv₀, h⟩⟩
  | some g =>
    rcases hlast g rfl with rfl | rfl
    · constructor
      · rintro ⟨v, hv, w, rfl, rfl⟩
        exact ⟨w, hv, rfl⟩
      · rintro ⟨v, hv, rfl⟩
        exact ⟨v, hv, v, rfl, rfl⟩
    · exact ⟨fun ⟨_, _, h⟩ => h, fun h => ⟨v₀, hv₀, h⟩⟩

/-! ## Statements -/

theorem runs_assign_iff (targets : List Expr) (value : Expr) :
    Runs name (.assign targets value) b b' ↔
      Outcome Given.Allows (targets.flatMap (Expr.gives name value)).getLast? b b' := by
  have hsequence (v : Value) : Sequence (Assigns name value v) targets b b' ↔
      Outcome (Given.Is v) (targets.flatMap (Expr.gives name value)).getLast? b b' := by
    refine sequence_iff (Given.exists_is v) (fun target b b' => ?_) targets
    exact assigns_iff
  refine Iff.trans ⟨?_, ?_⟩ (outcome_of_value fun g hg => mem_flatMap_gives (List.mem_of_getLast? hg))
  · rintro (⟨hv, h⟩)
    exact ⟨_, hv, (hsequence _).mp h⟩
  · rintro ⟨v, hv, h⟩
    exact .assign hv ((hsequence v).mpr h)

theorem runs_annotate_iff (target value : Expr) :
    Runs name (.annotate target (some value)) b b' ↔
      Outcome Given.Allows (Expr.gives name value target).getLast? b b' := by
  refine Iff.trans ⟨?_, ?_⟩ (outcome_of_value fun g hg => mem_gives (List.mem_of_getLast? hg))
  · rintro (_ | ⟨hv, h⟩)
    exact ⟨_, hv, assigns_iff.mp h⟩
  · rintro ⟨v, hv, h⟩
    exact .annotate hv (assigns_iff.mpr h)

theorem runs_augment_iff (target value : Expr) :
    Runs name (.augment target value) b b' ↔
      Outcome Given.Allows ((Stmt.augment target value).gives name).getLast? b b' := by
  rw [Stmt.gives]
  by_cases h : target.isNamed name = true
  · rw [if_pos h]
    obtain rfl := isNamed_iff.mp h
    constructor
    · rintro (_ | _ | _ | ⟨_, _, w⟩ | ⟨_, _, hother⟩)
      · exact ⟨w, trivial, rfl⟩
      · exact absurd rfl hother
    · rintro ⟨w, -, rfl⟩
      exact .augment value b w
  · rw [if_neg h]
    have hother : target ≠ .name name := fun heq => h (isNamed_iff.mpr heq)
    constructor
    · rintro (_ | _ | _ | ⟨_, _, w⟩ | ⟨_, _, -⟩)
      · exact absurd rfl hother
      · rfl
    · rintro rfl
      exact .augmentOther value _ hother

/-- A statement binds a name to what it gives the name last, and leaves it alone if it gives nothing. -/
theorem runs_iff (s : Stmt) : Runs name s b b' ↔ Outcome Given.Allows (s.gives name).getLast? b b' := by
  cases s with
  | assign targets value => exact runs_assign_iff targets value
  | annotate target value =>
    cases value with
    | none =>
      constructor
      · rintro ⟨⟩
        rfl
      · rintro rfl
        exact .declare target _
    | some value => exact runs_annotate_iff target value
  | augment target value => exact runs_augment_iff target value
  | classDef type line decorators body =>
    constructor
    · rintro ⟨⟩
      rfl
    · rintro rfl
      exact .classDef ..
  | block body =>
    constructor
    · rintro ⟨⟩
      rfl
    · rintro rfl
      exact .block ..
  | other =>
    constructor
    · rintro ⟨⟩
      rfl
    · rintro rfl
      exact .other _

/-- After a body has run a name is bound to what it was given last. -/
theorem executes_iff (body : List Stmt) :
    Executes name body b b' ↔ Outcome Given.Allows (bindings name body).getLast? b b' :=
  sequence_iff Given.exists_allows (fun s _ _ => runs_iff s) body

/-! ## Texts -/

/-- A text, if there is one, tells what a name is bound to when the statements of a body have run: it is the text of the
  literal that is assigned to it last, if one is, and the name is bound to no other value. -/
structure Resolves (name : String) (body : List Stmt) (text : Option String) : Prop where
  literal : ∀ s, Executes name body .unbound (.literal s) → text = some s
  value : ∀ s b, text = some s → Executes name body .unbound b → b.value? = some (.text s)

/-- The text of the literal that a name is given last. -/
def settledText (name : String) (body : List Stmt) : Option String := (bindings name body).getLast?.bind Given.text?

theorem text?_eq_some {e : Expr} {s : String} : e.text? = some s ↔ e = .text s := by
  cases e <;> simp [Expr.text?]

theorem ofExpr_eq_literal {s : String} : Binding.ofExpr v value = .literal s ↔ value = .text s := by
  cases value <;> simp [Binding.ofExpr]

/-- A name is bound by the assignment of a literal exactly if one settles its text. -/
theorem executes_literal_iff {body : List Stmt} {s : String} :
    Executes name body .unbound (.literal s) ↔ settledText name body = some s := by
  rw [executes_iff, settledText]
  cases (bindings name body).getLast? with
  | none => simp [Outcome]
  | some g =>
    cases g with
    | computed => simp [Outcome, Given.binding, Given.text?]
    | value e =>
      rw [Option.bind_some, Given.text?, text?_eq_some]
      constructor
      · rintro ⟨v, -, h⟩
        exact ofExpr_eq_literal.mp h.symm
      · rintro rfl
        exact ⟨_, .text s, rfl⟩

/-- If no literal settles the text, the name may be bound to no text at all. -/
theorem exists_executes {body : List Stmt} (h : settledText name body = none) :
    ∃ b, Executes name body .unbound b ∧ ∀ s, b.value? ≠ some (.text s) := by
  simp only [executes_iff]
  rw [settledText] at h
  cases hlast : (bindings name body).getLast? with
  | none => exact ⟨.unbound, rfl, by simp [Binding.value?]⟩
  | some g =>
    rw [hlast] at h
    cases g with
    | computed => exact ⟨.computed .object, ⟨.object, trivial, rfl⟩, by simp [Binding.value?]⟩
    | value e =>
      cases e with
      | text s => cases h
      | constant => exact ⟨.computed .object, ⟨.object, .constant, rfl⟩, by simp [Binding.value?]⟩
      | _ => exact ⟨.computed .object, ⟨.object, .computed _ (by simp) (by simp), rfl⟩, by simp [Binding.value?]⟩

theorem resolves_iff {body : List Stmt} {text : Option String} :
    Resolves name body text ↔ text = settledText name body := by
  constructor
  · intro h
    cases hs : settledText name body with
    | some s => exact h.literal s (executes_literal_iff.mpr hs)
    | none =>
      obtain ⟨b, hb, hno⟩ := exists_executes hs
      cases text with
      | none => rfl
      | some s => exact absurd (h.value s b rfl hb) (hno s)
  · rintro rfl
    refine ⟨fun s hs => executes_literal_iff.mp hs, fun s b hs hb => ?_⟩
    obtain ⟨g, hlast, hg⟩ := Option.bind_eq_some_iff.mp hs
    cases g with
    | computed => cases hg
    | value e =>
      rw [executes_iff, hlast, text?_eq_some.mp hg] at hb
      obtain ⟨v, -, rfl⟩ := hb
      rfl

/-! ## The first assignment -/

/-- How often a statement names a name: once for each time it gives it something, and once for an annotation alone. -/
def Stmt.mentions (name : String) : Stmt → Nat
  | .annotate target none => if target.isNamed name then 1 else 0
  | s => (s.gives name).length

theorem gives_of_no_mention {s : Stmt} (h : s.mentions name = 0) : s.gives name = [] := by
  unfold Stmt.mentions at h
  split at h
  · rfl
  · exact List.length_eq_zero_iff.mp h

/-- A target that is named is given the value itself, and any other nothing but what is computed from it. -/
theorem value_mem_gives_iff {targets : List Expr} :
    .value value ∈ targets.flatMap (Expr.gives name value) ↔ targets.any (Expr.isNamed name) = true := by
  rw [List.mem_flatMap, List.any_eq_true]
  refine exists_congr fun target => and_congr_right fun _ => ?_
  unfold Expr.gives
  split
  · simp_all
  · split <;> simp_all

theorem assigned?_of_no_mention {s : Stmt} (h : s.mentions name = 0) : s.assigned? name = none := by
  have hnil := gives_of_no_mention h
  cases s with
  | assign targets value =>
    refine if_neg fun hany => ?_
    have hmem : Given.value value ∈ (Stmt.assign targets value).gives name := value_mem_gives_iff.mpr hany
    rw [hnil] at hmem
    cases hmem
  | annotate target value =>
    refine if_neg fun hnamed => ?_
    cases value with
    | none => simp [Stmt.mentions, hnamed] at h
    | some value => simp [Stmt.gives, Expr.gives, hnamed] at hnil
  | _ => rfl

/-- Targets that name a name at most once give it the value of the assignment, or one computed from it, or nothing. -/
theorem assigned?_assign_settles {targets : List Expr} (h : (Stmt.assign targets value).mentions name ≤ 1) :
    (((Stmt.assign targets value).assigned? name).join).bind Expr.text? =
      (targets.flatMap (Expr.gives name value)).getLast?.bind Given.text? := by
  have hmem : .value value ∈ targets.flatMap (Expr.gives name value) ↔ targets.any (Expr.isNamed name) = true :=
    value_mem_gives_iff
  rw [Stmt.assigned?]
  cases hgives : targets.flatMap (Expr.gives name value) with
  | nil =>
    rw [if_neg fun hany => by simpa [hgives] using hmem.mpr hany]
    rfl
  | cons g gs =>
    obtain rfl : gs = [] := by
      have hlength : (targets.flatMap (Expr.gives name value)).length ≤ 1 := h
      rw [hgives, List.length_cons] at hlength
      exact List.length_eq_zero_iff.mp (by omega)
    rcases mem_flatMap_gives (hgives ▸ List.mem_cons_self) with rfl | rfl
    · rw [if_pos (hmem.mp (by simp [hgives]))]
      rfl
    · rw [if_neg fun hany => by simpa [hgives] using hmem.mpr hany]
      rfl

/-- Of a statement that names a name at most once, its text is the one that settles it. -/
theorem assigned?_settles {s : Stmt} (h : s.mentions name ≤ 1) :
    ((s.assigned? name).join).bind Expr.text? = settledText name [s] := by
  have hbindings : bindings name [s] = s.gives name := List.append_nil _
  rw [settledText, hbindings]
  cases s with
  | assign targets value => exact assigned?_assign_settles h
  | annotate target value =>
    cases value with
    | none =>
      rw [Stmt.assigned?]
      split <;> rfl
    | some value =>
      rw [Stmt.assigned?, Stmt.gives, Expr.gives]
      split
      · rfl
      · split <;> rfl
  | augment target value =>
    rw [Stmt.gives]
    split <;> rfl
  | _ => rfl

/-- If a body names a name at most once, the first assignment to it is the last. -/
theorem assignedText_of_once {body : List Stmt} (h : (body.map (Stmt.mentions name)).sum ≤ 1) :
    assignedText name body = settledText name body := by
  induction body with
  | nil => rfl
  | cons s rest ih =>
    rw [List.map_cons, List.sum_cons] at h
    by_cases hs : s.mentions name = 0
    · have hfirst : assignedText name (s :: rest) = assignedText name rest := by
        rw [assignedText, List.findSome?_cons, assigned?_of_no_mention hs]
        rfl
      have hsettled : settledText name (s :: rest) = settledText name rest := by
        rw [settledText, bindings, List.flatMap_cons, gives_of_no_mention hs]
        rfl
      rw [hfirst, hsettled, ih (by omega)]
    · -- This statement takes the one mention, so the rest has none.
      have hrest : ∀ s' ∈ rest, s'.mentions name = 0 := fun s' hs' =>
        List.sum_eq_zero_iff_forall_eq_nat.mp (by omega) _ (List.mem_map_of_mem hs')
      have hfind : rest.findSome? (Stmt.assigned? name) = none :=
        List.findSome?_eq_none_iff.mpr fun s' hs' => assigned?_of_no_mention (hrest s' hs')
      have hbindings : bindings name (s :: rest) = bindings name [s] := by
        have hnil : rest.flatMap (Stmt.gives name) = [] :=
          List.flatMap_eq_nil_iff.mpr fun s' hs' => gives_of_no_mention (hrest s' hs')
        rw [bindings, List.flatMap_cons, hnil]
        rfl
      have hfirst : assignedText name (s :: rest) = ((s.assigned? name).join).bind Expr.text? := by
        rw [assignedText, List.findSome?_cons, hfind]
        cases s.assigned? name <;> rfl
      rw [hfirst, assigned?_settles (by omega), settledText, settledText, hbindings]

end CrudQueries.Source
