/-
  CrudQueries.Proofs.Source.ClassTokens — the rules that take no class.

  A class definition begins with the keyword `class`, and with nothing else (`classHeads`). Of the
  rules of the grammar, those of expressions (`phrase_takesNoClass`), of patterns
  (`pattern_takesNoClass`) and of simple statements (`Statement.simple_takesNoClass`) take no such
  keyword: for each rule over others, it takes none if those do not (`Expression.step_takesNoClass`,
  `Pattern.step_takesNoClass`).
-/

import CrudQueries.Proofs.Source.Layout

namespace CrudQueries.Source

open Expression

/-- What each `class` among the tokens has behind it for a name, and its line. -/
def classHeads : Tokens → List (String × Nat)
  | [] => []
  | ⟨.keyword s, line⟩ :: rest =>
    if s == "class" then (((name rest).map (·.1)).getD "", line) :: classHeads rest else classHeads rest
  | _ :: rest => classHeads rest

/-- No `class` is among the tokens that a skip takes. -/
abbrev TakesNoClass (skip : Tokens → Option Tokens) : Prop :=
  ∀ ts rest, skip ts = some rest → classHeads rest = classHeads ts

/-- No `class` is among the tokens that a rule takes. -/
abbrev Rule.TakesNoClass {α : Type} (rule : Rule α) : Prop :=
  ∀ ts a rest, rule ts = some (a, rest) → classHeads rest = classHeads ts

variable {α : Type} {ts rest : Tokens} {s : String} {item : Rule α}

/-! ## Single tokens and lists -/

@[grind →] theorem classHeads_of_atSymbol (h : atSymbol s ts = true) : classHeads (ts.drop 1) = classHeads ts := by
  unfold atSymbol at h
  split at h
  · rfl
  · cases h

@[grind →] theorem classHeads_of_atSymbols {ss : List String} (h : atSymbols ss ts = true) :
    classHeads (ts.drop 1) = classHeads ts := by
  unfold atSymbols at h
  split at h
  · rfl
  · cases h

@[grind →] theorem classHeads_of_atWord (h : atWord s ts = true) (hs : s ≠ "class") :
    classHeads (ts.drop 1) = classHeads ts := by
  unfold atWord at h
  split at h
  · obtain rfl := beq_iff_eq.mp h
    simp [classHeads, hs]
  · cases h

@[grind →] theorem classHeads_of_atName (h : atName s ts = true) : classHeads (ts.drop 1) = classHeads ts := by
  unfold atName at h
  split at h
  · rfl
  · cases h

@[grind →] theorem classHeads_of_symbol (h : symbol s ts = some rest) : classHeads rest = classHeads ts := by
  unfold symbol at h
  grind

@[grind →] theorem classHeads_of_word (h : word s ts = some rest) (hs : s ≠ "class") :
    classHeads rest = classHeads ts := by
  unfold word at h
  grind

@[grind →] theorem classHeads_of_name {n : String} (h : name ts = some (n, rest)) : classHeads rest = classHeads ts := by
  unfold name at h
  split at h
  · cases h
    rfl
  · cases h

theorem name_takesNoClass : name.TakesNoClass := fun _ _ _ => classHeads_of_name

theorem classHeads_keyword {line : Nat} (hs : s ≠ "class") : classHeads (⟨.keyword s, line⟩ :: ts) = classHeads ts := by
  simp [classHeads, hs]

@[grind →] theorem classHeads_of_lineEnd (h : lineEnd ts = some rest) : classHeads rest = classHeads ts := by
  unfold lineEnd at h
  split at h
  · cases h
    rfl
  · cases h

theorem classHeads_afterCommas (hi : item.TakesNoClass) (fuel : Nat) (read : List α) (ts : Tokens) :
    classHeads (afterCommas fuel item read ts).2 = classHeads ts := by
  fun_induction afterCommas fuel item read ts with
  | case1 => rfl
  | case2 => rfl
  | case3 => grind
  | case4 => grind

theorem classHeads_many (hi : item.TakesNoClass) (fuel : Nat) (read : List α) (ts : Tokens) :
    classHeads (many fuel item read ts).2 = classHeads ts := by
  fun_induction many fuel item read ts with
  | case1 => rfl
  | case2 => rfl
  | case3 => grind

theorem classHeads_maybe (hi : item.TakesNoClass) (ts : Tokens) : classHeads (maybe item ts).2 = classHeads ts := by
  unfold maybe
  grind

theorem commaList_takesNoClass (hi : item.TakesNoClass) : (commaList item).TakesNoClass := by
  intro ts a rest h
  unfold commaList at h
  grind [- Option.bind_assoc, Option.bind_eq_some_iff, classHeads_afterCommas hi]

theorem commaSeparated_takesNoClass (hi : item.TakesNoClass) : (commaSeparated item).TakesNoClass := by
  intro ts a rest h
  unfold commaSeparated at h
  grind [- Option.bind_assoc, Option.bind_eq_some_iff, commaList_takesNoClass hi]

/-! ## Expressions -/

namespace Expression

section

variable {phrases : Phrases}

theorem chain_takesNoClass {operator : Tokens → Option Tokens} {operand : Rule Expr} (ho : Source.TakesNoClass operator)
    (hi : operand.TakesNoClass) : (chain operator operand).TakesNoClass := by
  have hgo : ∀ fuel e, Rule.TakesNoClass (chain.go operator operand fuel e) := by
    intro fuel
    induction fuel with
    | zero =>
      intro e ts a rest h
      unfold chain.go at h
      grind
    | succ fuel ih =>
      intro e ts a rest h
      unfold chain.go at h
      grind [- Option.bind_assoc, Option.bind_eq_some_iff]
  intro ts a rest h
  unfold chain at h
  grind [- Option.bind_assoc, Option.bind_eq_some_iff]

theorem arithmeticOperator_takesNoClass : TakesNoClass arithmeticOperator := by
  intro ts rest h
  unfold arithmeticOperator at h
  grind

theorem classHeads_drop_two {s t : String} (h : atWord s ts = true) (h' : atWord t (ts.drop 1) = true) (hs : s ≠ "class")
    (ht : t ≠ "class") : classHeads (ts.drop 2) = classHeads ts := by
  have hsecond := classHeads_of_atWord h' ht
  rw [List.drop_drop] at hsecond
  rw [hsecond, classHeads_of_atWord h hs]

theorem comparison_takesNoClass : TakesNoClass comparison := by
  intro ts rest h
  unfold comparison at h
  grind [classHeads_drop_two]

theorem connective_takesNoClass : TakesNoClass connective := by
  intro ts rest h
  unfold connective at h
  grind

variable (hp : ∀ p, (phrases p).TakesNoClass)
include hp

theorem operand_takesNoClass : (operand phrases).TakesNoClass := by
  intro ts a rest h
  unfold operand at h
  grind [- Option.bind_assoc, Option.bind_eq_some_iff]

theorem inversion_takesNoClass : (inversion phrases).TakesNoClass := by
  intro ts a rest h
  unfold inversion at h
  grind [- Option.bind_assoc, Option.bind_eq_some_iff, chain_takesNoClass comparison_takesNoClass (hp .sum)]

theorem parameterDefault_takesNoClass : Rule.TakesNoClass (parameterDefault phrases) := by
  intro ts a rest h
  unfold parameterDefault at h
  grind [- Option.bind_assoc, Option.bind_eq_some_iff, Option.map_eq_some_iff]

theorem typeHint_takesNoClass (annotated starred : Bool) : TakesNoClass (typeHint phrases annotated starred) := by
  intro ts rest h
  unfold typeHint at h
  grind [- Option.bind_assoc, Option.bind_eq_some_iff, Option.map_eq_some_iff]

theorem parameter_takesNoClass (annotated : Bool) : (parameter phrases annotated).TakesNoClass := by
  intro ts a rest h
  unfold parameter at h
  grind [- Option.bind_assoc, Option.bind_eq_some_iff, Option.map_eq_some_iff, parameterDefault_takesNoClass hp, typeHint_takesNoClass hp]

theorem parameters_takesNoClass (annotated : Bool) (stop : String) : TakesNoClass (parameters phrases annotated stop) := by
  intro ts rest h
  unfold parameters at h
  grind [- Option.bind_assoc, Option.bind_eq_some_iff, Option.map_eq_some_iff, commaList_takesNoClass (parameter_takesNoClass hp annotated)]

theorem starredOr_takesNoClass (p : Phrase) : (starredOr phrases p).TakesNoClass := by
  intro ts a rest h
  unfold starredOr at h
  grind [- Option.bind_assoc, Option.bind_eq_some_iff, Option.map_eq_some_iff]

theorem expressionList_takesNoClass : (expressionList phrases).TakesNoClass := by
  intro ts a rest h
  unfold expressionList at h
  grind [- Option.bind_assoc, Option.bind_eq_some_iff, Option.map_eq_some_iff, commaList_takesNoClass (starredOr_takesNoClass hp .expression)]

theorem named_takesNoClass : (named phrases).TakesNoClass := by
  intro ts a rest h
  unfold named at h
  grind [- Option.bind_assoc, Option.bind_eq_some_iff, Option.map_eq_some_iff]

theorem expression_takesNoClass : (expression phrases).TakesNoClass := by
  intro ts a rest h
  unfold expression at h
  split at h
  · grind [- Option.bind_assoc, Option.bind_eq_some_iff, parameters_takesNoClass hp]
  · simp only [Option.bind_eq_bind, Option.bind_eq_some_iff, Prod.exists] at h
    obtain ⟨e, before, he, h⟩ := h
    have hbefore := hp _ _ _ _ he
    clear he
    grind [- Option.bind_assoc, Option.bind_eq_some_iff]

theorem yieldExpression_takesNoClass : (yieldExpression phrases).TakesNoClass := by
  intro ts a rest h
  unfold yieldExpression at h
  grind [- Option.bind_assoc, Option.bind_eq_some_iff, Option.map_eq_some_iff, classHeads_maybe (hp .list)]

theorem targets_takesNoClass : (targets phrases).TakesNoClass := by
  intro ts a rest h
  unfold targets at h
  simp only [Option.bind_eq_bind, Option.bind_eq_some_iff, Prod.exists] at h
  obtain ⟨items, ended, after, hitems, h⟩ := h
  have hafter : classHeads after = classHeads ts := by
    refine commaList_takesNoClass ?_ _ _ _ hitems
    intro ts a rest h
    grind [Option.bind_eq_some_iff]
  grind

theorem condition_takesNoClass : (condition phrases).TakesNoClass := by
  intro ts a rest h
  unfold condition at h
  grind [- Option.bind_assoc, Option.bind_eq_some_iff, Option.map_eq_some_iff]

theorem clause_takesNoClass : (clause phrases).TakesNoClass := by
  intro ts a rest h
  unfold clause at h
  have hstart : classHeads (if atWord "async" ts then ts.drop 1 else ts) = classHeads ts := by grind
  obtain ⟨loop, hloop, h⟩ := Option.bind_eq_some_iff.mp h
  have hfor := classHeads_of_word hloop (by decide)
  grind [- Option.bind_assoc, Option.bind_eq_some_iff, classHeads_many (condition_takesNoClass hp)]

theorem clauses_takesNoClass : TakesNoClass (clauses phrases) := by
  intro ts rest h
  unfold clauses at h
  grind [- Option.bind_assoc, Option.bind_eq_some_iff, Option.map_eq_some_iff, clause_takesNoClass hp, classHeads_many (clause_takesNoClass hp)]

theorem argument_takesNoClass : (argument phrases).TakesNoClass := by
  intro ts a rest h
  unfold argument at h
  grind [- Option.bind_assoc, Option.bind_eq_some_iff, Option.map_eq_some_iff]

theorem arguments_takesNoClass (mayGenerate : Bool) : (arguments phrases mayGenerate).TakesNoClass := by
  intro ts a rest h
  unfold arguments at h
  split at h
  · grind
  · simp only [Option.bind_eq_bind, Option.bind_eq_some_iff, Prod.exists] at h
    obtain ⟨first, after, hfirst, h⟩ := h
    have hafter := argument_takesNoClass hp _ _ _ hfirst
    clear hfirst
    split at h
    · split at h <;> grind [- Option.bind_assoc, Option.bind_eq_some_iff, clauses_takesNoClass hp]
    · grind [- Option.bind_assoc, Option.bind_eq_some_iff, classHeads_afterCommas (argument_takesNoClass hp)]

theorem sliceTail_takesNoClass : TakesNoClass (sliceTail phrases) := by
  intro ts rest h
  unfold sliceTail at h
  grind [- Option.bind_assoc, Option.bind_eq_some_iff, Option.map_eq_some_iff, classHeads_maybe (hp .expression)]

theorem slice_takesNoClass : (slice phrases).TakesNoClass := by
  intro ts a rest h
  unfold slice at h
  grind [- Option.bind_assoc, Option.bind_eq_some_iff, Option.map_eq_some_iff, sliceTail_takesNoClass hp]

theorem trailers_takesNoClass (line fuel : Nat) (e : Expr) : Rule.TakesNoClass (trailers phrases line fuel e) := by
  induction fuel generalizing e with
  | zero =>
    intro ts a rest h
    cases h
  | succ fuel ih =>
    intro ts a rest h
    unfold trailers at h
    split at h
    · grind [- Option.bind_assoc, Option.bind_eq_some_iff]
    split at h
    · grind [- Option.bind_assoc, Option.bind_eq_some_iff, arguments_takesNoClass hp]
    split at h
    · grind [- Option.bind_assoc, Option.bind_eq_some_iff, commaList_takesNoClass (slice_takesNoClass hp)]
    · grind

theorem primary_takesNoClass : (primary phrases).TakesNoClass := by
  intro ts a rest h
  unfold primary at h
  grind [- Option.bind_assoc, Option.bind_eq_some_iff, Option.map_eq_some_iff, trailers_takesNoClass hp]

theorem inParentheses_takesNoClass : (inParentheses phrases).TakesNoClass := by
  intro ts a rest h
  unfold inParentheses at h
  split at h
  · grind
  split at h
  · grind [- Option.bind_assoc, Option.bind_eq_some_iff, yieldExpression_takesNoClass hp]
  simp only [Option.bind_eq_bind, Option.bind_eq_some_iff, Prod.exists] at h
  obtain ⟨first, after, hfirst, h⟩ := h
  have hafter := starredOr_takesNoClass hp _ _ _ _ hfirst
  clear hfirst
  split at h
  · grind [- Option.bind_assoc, Option.bind_eq_some_iff, clauses_takesNoClass hp]
  · grind [- Option.bind_assoc, Option.bind_eq_some_iff, classHeads_afterCommas (starredOr_takesNoClass hp .named)]

theorem inBrackets_takesNoClass : (inBrackets phrases).TakesNoClass := by
  intro ts a rest h
  unfold inBrackets at h
  split at h
  · grind
  simp only [Option.bind_eq_bind, Option.bind_eq_some_iff, Prod.exists] at h
  obtain ⟨first, after, hfirst, h⟩ := h
  have hafter := starredOr_takesNoClass hp _ _ _ _ hfirst
  clear hfirst
  split at h
  · grind [- Option.bind_assoc, Option.bind_eq_some_iff, clauses_takesNoClass hp]
  · grind [- Option.bind_assoc, Option.bind_eq_some_iff, classHeads_afterCommas (starredOr_takesNoClass hp .named)]

theorem entry_takesNoClass : (entry phrases).TakesNoClass := by
  intro ts a rest h
  unfold entry at h
  grind [- Option.bind_assoc, Option.bind_eq_some_iff, Option.map_eq_some_iff]

theorem displayTail_takesNoClass (mayIterate : Bool) {member : Rule Expr} (hm : member.TakesNoClass) :
    (displayTail phrases mayIterate member).TakesNoClass := by
  intro ts a rest h
  unfold displayTail at h
  grind [- Option.bind_assoc, Option.bind_eq_some_iff, Option.map_eq_some_iff, clauses_takesNoClass hp, classHeads_afterCommas hm]

theorem inBraces_takesNoClass : (inBraces phrases).TakesNoClass := by
  have hentry := entry_takesNoClass hp
  have hmember := starredOr_takesNoClass hp .named
  intro ts a rest h
  unfold inBraces at h
  split at h
  · grind
  split at h
  · grind [- Option.bind_assoc, Option.bind_eq_some_iff, displayTail_takesNoClass hp false hentry]
  simp only [Option.bind_eq_bind, Option.bind_eq_some_iff, Prod.exists] at h
  obtain ⟨first, after, hfirst, h⟩ := h
  have hafter := hmember _ _ _ hfirst
  clear hfirst
  split at h <;> split at h
  all_goals
    grind [- Option.bind_assoc, Option.bind_eq_some_iff, displayTail_takesNoClass hp true hentry,
      displayTail_takesNoClass hp _ hmember]

omit hp in
theorem classHeads_literals (ts : Tokens) : classHeads (literals ts).2 = classHeads ts := by
  fun_induction literals ts with
  | case1 l line rest ih => exact ih
  | case2 => rfl

theorem atom_takesNoClass : (atom phrases).TakesNoClass := by
  intro ts a rest h
  unfold atom at h
  split at h
  · cases h; rfl
  · cases h; rfl
  · grind [Option.map_eq_some_iff, classHeads_literals]
  · grind [classHeads]
  · cases h; rfl
  · exact (inParentheses_takesNoClass hp _ _ _ h).trans rfl
  · exact (inBrackets_takesNoClass hp _ _ _ h).trans rfl
  · exact (inBraces_takesNoClass hp _ _ _ h).trans rfl
  · cases h

/-- If no phrase takes a class, then no phrase over those does. -/
theorem step_takesNoClass (p : Phrase) : Rule.TakesNoClass (step phrases p) := by
  cases p with
  | list => exact expressionList_takesNoClass hp
  | named => exact named_takesNoClass hp
  | expression => exact expression_takesNoClass hp
  | disjunction => exact chain_takesNoClass connective_takesNoClass (hp .inversion)
  | inversion => exact inversion_takesNoClass hp
  | sum => exact chain_takesNoClass arithmeticOperator_takesNoClass (hp .operand)
  | operand => exact operand_takesNoClass hp
  | primary => exact primary_takesNoClass hp
  | atom => exact atom_takesNoClass hp
  | targets => exact targets_takesNoClass hp

end

end Expression

theorem phrase_takesNoClass (depth : Nat) (p : Phrase) : Rule.TakesNoClass (phrase depth p) := by
  induction depth generalizing p with
  | zero =>
    intro ts a rest h
    cases h
  | succ depth ih => exact Expression.step_takesNoClass ih p

/-! ## Patterns -/

theorem Skip.rule_takesNoClass {skip : Skip} (h : TakesNoClass skip) : (Skip.rule skip).TakesNoClass := by
  intro ts a rest hr
  obtain ⟨after, hs, heq⟩ := Option.map_eq_some_iff.mp hr
  cases heq
  exact h _ _ hs

namespace Pattern

theorem capture_takesNoClass : TakesNoClass capture := by
  intro ts rest h
  unfold capture at h
  grind [- Option.bind_assoc, Option.bind_eq_some_iff, Option.map_eq_some_iff]

theorem signedNumber_takesNoClass : Rule.TakesNoClass signedNumber := by
  intro ts imaginary rest h
  unfold signedNumber at h
  split at h
  · cases h
    split at * <;> grind [classHeads]
  · cases h

theorem number_takesNoClass : TakesNoClass number := by
  intro ts rest h
  unfold number at h
  simp only [Option.bind_eq_bind, Option.bind_eq_some_iff, Prod.exists] at h
  obtain ⟨imaginary, after, hfirst, h⟩ := h
  have hafter := signedNumber_takesNoClass _ _ _ hfirst
  clear hfirst
  grind [classHeads]

theorem literal_takesNoClass (depth : Nat) : TakesNoClass (literal depth) := by
  intro ts rest h
  unfold literal at h
  split at h
  · grind [Option.map_eq_some_iff, phrase_takesNoClass]
  · grind [classHeads]
  · exact number_takesNoClass _ _ h

theorem dotted_takesNoClass : Rule.TakesNoClass dotted := by
  have hgo : ∀ fuel long ts, classHeads (dotted.go fuel long ts).2 = classHeads ts := by
    intro fuel long ts
    fun_induction dotted.go fuel long ts <;> grind
  intro ts a rest h
  unfold dotted at h
  grind [- Option.bind_assoc, Option.bind_eq_some_iff]

theorem star_takesNoClass : TakesNoClass star := by
  intro ts rest h
  unfold star at h
  grind [- Option.bind_assoc, Option.bind_eq_some_iff, capture_takesNoClass]

section

variable {pattern : Skip} (hp : TakesNoClass pattern)
include hp

theorem starOr_takesNoClass : (starOr pattern).TakesNoClass := by
  refine Skip.rule_takesNoClass fun ts rest h => ?_
  rcases Option.or_eq_some_iff.mp h with h | ⟨-, h⟩
  · exact star_takesNoClass _ _ h
  · exact hp _ _ h

theorem sequence_takesNoClass (stop : String) : TakesNoClass (sequence pattern stop) := by
  intro ts rest h
  unfold sequence at h
  grind [- Option.bind_assoc, Option.bind_eq_some_iff, Option.map_eq_some_iff, commaList_takesNoClass (starOr_takesNoClass hp)]

theorem inParentheses_takesNoClass : TakesNoClass (inParentheses pattern) := by
  intro ts rest h
  unfold inParentheses at h
  grind [- Option.bind_assoc, Option.bind_eq_some_iff, Option.map_eq_some_iff, commaList_takesNoClass (starOr_takesNoClass hp)]

theorem mappingEntry_takesNoClass (depth : Nat) : (mappingEntry depth pattern).TakesNoClass := by
  intro ts a rest h
  unfold mappingEntry at h
  split at h
  · grind [Option.map_eq_some_iff, capture_takesNoClass]
  · simp only [Option.bind_eq_bind, Option.bind_eq_some_iff, Option.or_eq_some_iff, Prod.exists] at h
    obtain ⟨after, hkey, colon, hcolon, value, hvalue, h⟩ := h
    have hafter : classHeads after = classHeads ts := by
      rcases hkey with hkey | ⟨-, long, key, hkey, h⟩
      · exact literal_takesNoClass depth _ _ hkey
      · have hkey := dotted_takesNoClass _ _ _ hkey
        grind
    grind

theorem mapping_takesNoClass (depth : Nat) : TakesNoClass (mapping depth pattern) := by
  intro ts rest h
  unfold mapping at h
  grind [- Option.bind_assoc, Option.bind_eq_some_iff, Option.map_eq_some_iff, commaList_takesNoClass (mappingEntry_takesNoClass hp depth)]

theorem classArgument_takesNoClass : (classArgument pattern).TakesNoClass := by
  intro ts a rest h
  unfold classArgument at h
  grind [- Option.bind_assoc, Option.bind_eq_some_iff, Option.map_eq_some_iff]

theorem classArguments_takesNoClass : TakesNoClass (classArguments pattern) := by
  intro ts rest h
  unfold classArguments at h
  grind [- Option.bind_assoc, Option.bind_eq_some_iff, Option.map_eq_some_iff, commaList_takesNoClass (classArgument_takesNoClass hp)]

theorem closed_takesNoClass (depth : Nat) : TakesNoClass (closed depth pattern) := by
  intro ts rest h
  unfold closed at h
  split at h
  · exact (inParentheses_takesNoClass hp _ _ h).trans rfl
  · exact (sequence_takesNoClass hp "]" _ _ h).trans rfl
  · exact (mapping_takesNoClass hp depth _ _ h).trans rfl
  · grind [- Option.bind_assoc, Option.bind_eq_some_iff, classHeads, dotted_takesNoClass, capture_takesNoClass,
      classArguments_takesNoClass hp]
  · exact literal_takesNoClass depth _ _ h

theorem alternatives_takesNoClass (depth fuel : Nat) : TakesNoClass (step.alternatives depth pattern fuel) := by
  induction fuel with
  | zero =>
    intro ts rest h
    unfold step.alternatives at h
    grind
  | succ fuel ih =>
    intro ts rest h
    unfold step.alternatives at h
    grind [- Option.bind_assoc, Option.bind_eq_some_iff, closed_takesNoClass hp depth]

/-- If a pattern takes no class, then no pattern over it does. -/
theorem step_takesNoClass (depth : Nat) : TakesNoClass (step depth pattern) := by
  intro ts rest h
  unfold step at h
  simp only [Option.bind_eq_bind, Option.bind_eq_some_iff] at h
  obtain ⟨first, hfirst, after, hafter, h⟩ := h
  have hafter := alternatives_takesNoClass hp depth _ _ _ hafter
  rw [closed_takesNoClass hp depth _ _ hfirst] at hafter
  grind [capture_takesNoClass]

end

end Pattern

theorem pattern_takesNoClass (depth : Nat) : TakesNoClass (pattern depth) := by
  induction depth with
  | zero =>
    intro ts rest h
    cases h
  | succ depth ih => exact Pattern.step_takesNoClass ih depth

theorem casePatterns_takesNoClass (depth : Nat) : TakesNoClass (casePatterns depth) := by
  intro ts rest h
  unfold casePatterns at h
  grind [- Option.bind_assoc, Option.bind_eq_some_iff, Option.map_eq_some_iff, commaList_takesNoClass (Pattern.starOr_takesNoClass (pattern_takesNoClass depth))]

/-! ## Simple statements -/

namespace Statement

open Pattern (dotted_takesNoClass)

theorem dottedName_takesNoClass : TakesNoClass dottedName := by
  intro ts rest h
  unfold dottedName at h
  grind [Option.map_eq_some_iff, dotted_takesNoClass]

theorem asName_takesNoClass : TakesNoClass asName := by
  intro ts rest h
  unfold asName at h
  grind [Option.map_eq_some_iff]

theorem importModule_takesNoClass : TakesNoClass importModule := by
  have hitem : (Skip.rule fun ts => (dottedName ts).bind asName).TakesNoClass := by
    refine Skip.rule_takesNoClass fun ts rest h => ?_
    obtain ⟨after, hname, has⟩ := Option.bind_eq_some_iff.mp h
    rw [asName_takesNoClass _ _ has, dottedName_takesNoClass _ _ hname]
  intro ts rest h
  unfold importModule at h
  grind [- Option.bind_assoc, Option.bind_eq_some_iff, commaSeparated_takesNoClass hitem]

theorem classHeads_leadingDots (fuel count : Nat) (ts : Tokens) :
    classHeads (leadingDots fuel count ts).2 = classHeads ts := by
  fun_induction leadingDots fuel count ts <;> grind

theorem importNames_takesNoClass : TakesNoClass importNames := by
  intro ts rest h
  unfold importNames at h
  extract_lets item at h
  have hitem : item.TakesNoClass := by
    refine Skip.rule_takesNoClass fun ts rest h => ?_
    grind [Option.bind_eq_some_iff, asName_takesNoClass]
  grind [- Option.bind_assoc, Option.bind_eq_some_iff, commaList_takesNoClass hitem, commaSeparated_takesNoClass hitem]

theorem importFrom_takesNoClass : TakesNoClass importFrom := by
  intro ts rest h
  unfold importFrom at h
  grind [- Option.bind_assoc, Option.bind_eq_some_iff, classHeads_leadingDots, dottedName_takesNoClass,
    importNames_takesNoClass]

section

variable {phrases : Phrases} (hp : ∀ p, (phrases p).TakesNoClass)
include hp

open Expression (yieldExpression_takesNoClass)

theorem rightSide_takesNoClass : (rightSide phrases).TakesNoClass := by
  intro ts a rest h
  unfold rightSide at h
  grind [Option.map_eq_some_iff, yieldExpression_takesNoClass hp]

theorem assignment_takesNoClass (fuel : Nat) (targets : List Expr) : (assignment phrases fuel targets).TakesNoClass := by
  induction fuel generalizing targets with
  | zero =>
    intro ts a rest h
    cases h
  | succ fuel ih =>
    intro ts a rest h
    unfold assignment at h
    grind [- Option.bind_assoc, Option.bind_eq_some_iff, rightSide_takesNoClass hp]

theorem expressionOrAssignment_takesNoClass : (expressionOrAssignment phrases).TakesNoClass := by
  have hright := rightSide_takesNoClass hp
  intro ts a rest h
  unfold expressionOrAssignment at h
  simp only [Option.bind_eq_bind, Option.bind_eq_some_iff, Prod.exists] at h
  obtain ⟨e, after, he, h⟩ := h
  have hafter := hp _ _ _ _ he
  clear he
  split at h
  · grind [assignment_takesNoClass hp]
  split at h
  · grind [- Option.bind_assoc, Option.bind_eq_some_iff, Option.map_eq_some_iff]
  · grind [Option.map_eq_some_iff]

theorem keywordStatement_takesNoClass (keyword : String) : TakesNoClass (keywordStatement phrases keyword) := by
  intro ts rest h
  unfold keywordStatement at h
  split at h
  · cases h; rfl
  · cases h; rfl
  · cases h; rfl
  · cases h
    exact classHeads_maybe (hp .list) ts
  · grind [Option.map_eq_some_iff]
  · grind [Option.map_eq_some_iff, commaSeparated_takesNoClass name_takesNoClass]
  · grind [Option.map_eq_some_iff, commaSeparated_takesNoClass name_takesNoClass]
  · grind [- Option.bind_assoc, Option.bind_eq_some_iff, commaList_takesNoClass (hp .primary)]
  · grind [- Option.bind_assoc, Option.bind_eq_some_iff, Option.map_eq_some_iff]
  · exact importModule_takesNoClass _ _ h
  · exact importFrom_takesNoClass _ _ h
  · cases h

/-- No simple statement begins with `class`, or has a class inside it. -/
theorem simple_takesNoClass : (simple phrases).TakesNoClass := by
  intro ts a rest h
  unfold simple at h
  split at h
  · split at h
    case isTrue hs =>
      obtain ⟨after, hafter, heq⟩ := Option.map_eq_some_iff.mp h
      cases heq
      rw [keywordStatement_takesNoClass hp _ _ _ hafter, classHeads_keyword]
      rintro rfl
      exact absurd hs (by decide)
    · grind [Option.map_eq_some_iff, yieldExpression_takesNoClass hp, expressionOrAssignment_takesNoClass hp]
  · exact expressionOrAssignment_takesNoClass hp _ _ _ h

end

end Statement

end CrudQueries.Source
