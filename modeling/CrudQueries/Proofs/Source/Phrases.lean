/-
  CrudQueries.Proofs.Source.Phrases — what phrases of expressions are read as.

  `Reads d p ts e rest` says that from depth `d` on the phrase `p` at the head of the tokens is `e`.
  An atom or a primary is also every phrase above it, where nothing follows that would go on with one
  (`Reads.toExpression`); calls, items, lists and tuples are read from what stands in their brackets.
-/

import CrudQueries.Source.Expression

namespace CrudQueries.Source

open Expression

/-- From depth `d` on, the phrase `p` at the head of `ts` is `e`, and `rest` follows it. -/
def Reads (d : Nat) (p : Phrase) (ts : Tokens) (e : Expr) (rest : Tokens) : Prop :=
  ∀ k, d ≤ k → phrase k p ts = some (e, rest)

variable {d d' n m : Nat} {p : Phrase} {ts rest : Tokens} {e : Expr}

theorem Reads.mono (h : Reads d p ts e rest) (hd : d ≤ d') : Reads d' p ts e rest :=
  fun k hk => h k (Nat.le_trans hd hk)

/-- A phrase is read by its rule over phrases of less depth. -/
theorem reads_step (h : ∀ k, d ≤ k → Expression.step (phrase k) p ts = some (e, rest)) : Reads (d + 1) p ts e rest := by
  intro k hk
  obtain ⟨k, rfl⟩ : ∃ j, k = j + 1 := ⟨k - 1, by omega⟩
  exact h k (by omega)

/-! ## The next token -/

@[simp] theorem atSymbol_cons {s : String} {l : Lexeme} : atSymbol s (⟨l, n⟩ :: ts) = decide (l = .symbol s) := by
  cases l with
  | symbol t =>
    rw [Bool.eq_iff_iff, atSymbol, beq_iff_eq, decide_eq_true_iff, Lexeme.symbol.injEq]
    exact eq_comm
  | _ => simp [atSymbol]

@[simp] theorem atWord_cons {s : String} {l : Lexeme} : atWord s (⟨l, n⟩ :: ts) = decide (l = .keyword s) := by
  cases l with
  | keyword t =>
    rw [Bool.eq_iff_iff, atWord, beq_iff_eq, decide_eq_true_iff, Lexeme.keyword.injEq]
    exact eq_comm
  | _ => simp [atWord]

@[simp] theorem name_name {s : String} : name (⟨.name s, n⟩ :: ts) = some (s, ts) := rfl

/-! ## Where phrases begin and end -/

/-- Does a token follow that ends every expression? -/
def endsPhrase : Tokens → Bool
  | ⟨.symbol s, _⟩ :: _ => [")", "]", ",", ":", "="].contains s
  | ⟨.lineEnd, _⟩ :: _ => true
  | _ => false

/-- Does a token follow that ends every operand of a comparison? -/
def endsOperand : Tokens → Bool
  | ⟨.keyword s, _⟩ :: _ => s == "in"
  | ts => endsPhrase ts

/-- Does a token follow that begins a primary? -/
def startsPrimary : Tokens → Bool
  | ⟨.name _, _⟩ :: _ | ⟨.literal _, _⟩ :: _ => true
  | ⟨.symbol s, _⟩ :: _ => ["(", "[", "..."].contains s
  | ⟨.keyword s, _⟩ :: _ => s == "None"
  | _ => false

theorem endsPhrase_cases (h : endsPhrase rest = true) :
    (∃ s n ts, s ∈ [")", "]", ",", ":", "="] ∧ rest = ⟨.symbol s, n⟩ :: ts) ∨ ∃ n ts, rest = ⟨.lineEnd, n⟩ :: ts := by
  unfold endsPhrase at h
  split at h
  · exact Or.inl ⟨_, _, _, List.contains_iff_mem.mp h, rfl⟩
  · exact Or.inr ⟨_, _, rfl⟩
  · cases h

theorem endsOperand_cases (h : endsOperand rest = true) :
    (∃ n ts, rest = ⟨.keyword "in", n⟩ :: ts) ∨ endsPhrase rest = true := by
  unfold endsOperand at h
  split at h
  · exact Or.inl ⟨_, _, by rw [beq_iff_eq.mp h]⟩
  · exact Or.inr h

theorem endsOperand_of_endsPhrase (h : endsPhrase rest = true) : endsOperand rest = true := by
  rcases endsPhrase_cases h with ⟨s, n, ts, hs, rfl⟩ | ⟨n, ts, rfl⟩ <;> exact h

/-- What no operand goes on with. -/
theorem operand_ends (h : endsOperand rest = true) : atSymbol "." rest = false ∧ atSymbol "(" rest = false ∧
    atSymbol "[" rest = false ∧ symbol "**" rest = none ∧ arithmeticOperator rest = none := by
  rcases endsOperand_cases h with ⟨n, ts, rfl⟩ | h
  · simp [symbol, arithmeticOperator, atSymbols]
  · rcases endsPhrase_cases h with ⟨s, n, ts, hs, rfl⟩ | ⟨n, ts, rfl⟩
    · simp only [List.mem_cons, List.not_mem_nil, or_false] at hs
      rcases hs with rfl | rfl | rfl | rfl | rfl <;> simp [symbol, arithmeticOperator, atSymbols, arithmetic]
    · simp [symbol, arithmeticOperator, atSymbols]

/-- What no expression goes on with. -/
theorem phrase_ends (h : endsPhrase rest = true) :
    comparison rest = none ∧ connective rest = none ∧ atWord "if" rest = false ∧ atSymbol ":=" rest = false ∧
      atClause rest = false := by
  rcases endsPhrase_cases h with ⟨s, n, ts, hs, rfl⟩ | ⟨n, ts, rfl⟩
  · simp only [List.mem_cons, List.not_mem_nil, or_false] at hs
    rcases hs with rfl | rfl | rfl | rfl | rfl <;> simp [comparison, connective, atSymbols, atClause]
  · simp [comparison, connective, atSymbols, atClause]

/-- What no primary begins with. -/
theorem primary_starts (h : startsPrimary ts = true) : atSymbols ["+", "-", "~"] ts = false ∧
    atWord "await" ts = false ∧ atWord "not" ts = false ∧ atWord "lambda" ts = false ∧ atSymbol "*" ts = false ∧
      atSymbol "**" ts = false ∧ atWord "yield" ts = false ∧ atSymbol ")" ts = false ∧ atSymbol "]" ts = false ∧
      atSymbol ":" ts = false := by
  unfold startsPrimary at h
  split at h
  · simp [atSymbols]
  · simp [atSymbols]
  · simp only [List.contains_eq_mem, List.mem_cons, List.not_mem_nil, or_false, decide_eq_true_eq] at h
    rcases h with rfl | rfl | rfl <;> simp [atSymbols]
  · simp only [beq_iff_eq] at h
    subst h
    simp [atSymbols]
  · cases h

/-! ## From an atom up -/

theorem trailers_ends (phrases : Phrases) (line fuel : Nat) (h : endsOperand rest = true) :
    trailers phrases line (fuel + 1) e rest = some (e, rest) := by
  obtain ⟨h1, h2, h3, -⟩ := operand_ends h
  simp [trailers, h1, h2, h3]

theorem Reads.primary (h : Reads d .atom ts e rest) (hr : endsOperand rest = true) : Reads (d + 1) .primary ts e rest :=
  reads_step fun k hk => by simp [Expression.step, Expression.primary, h k hk, trailers_ends _ _ _ hr]

theorem Reads.operand (h : Reads d .primary ts e rest) (hs : startsPrimary ts = true) (hr : endsOperand rest = true) :
    Reads (d + 1) .operand ts e rest := by
  obtain ⟨h1, h2, -⟩ := primary_starts hs
  obtain ⟨-, -, -, h3, -⟩ := operand_ends hr
  exact reads_step fun k hk => by simp [Expression.step, Expression.operand, h1, h2, h k hk, h3]

theorem chain_ends {operator : Tokens → Option Tokens} {operand : Rule Expr} (h : operand ts = some (e, rest))
    (hr : operator rest = none) : chain operator operand ts = some (e, rest) := by
  cases hl : ts.length <;> simp [chain, chain.go, h, hr, hl]

theorem chain_more {operator : Tokens → Option Tokens} {operand : Rule Expr} {e' : Expr} {us vs : Tokens} (hne : ts ≠ [])
    (h : operand ts = some (e, us)) (ho : operator us = some vs) (h' : operand vs = some (e', rest))
    (hr : operator rest = none) : chain operator operand ts = some (.other, rest) := by
  obtain ⟨t, ts, rfl⟩ := List.exists_cons_of_ne_nil hne
  cases hl : ts.length <;> simp [chain, chain.go, h, ho, h', hr, hl]

theorem Reads.sum (h : Reads d .operand ts e rest) (hr : endsOperand rest = true) : Reads (d + 1) .sum ts e rest := by
  obtain ⟨-, -, -, -, h1⟩ := operand_ends hr
  exact reads_step fun k hk => chain_ends (h k hk) h1

theorem Reads.inversion (h : Reads d .sum ts e rest) (hs : startsPrimary ts = true) (hr : endsPhrase rest = true) :
    Reads (d + 1) .inversion ts e rest := by
  obtain ⟨-, -, h1, -⟩ := primary_starts hs
  obtain ⟨h2, -⟩ := phrase_ends hr
  exact reads_step fun k hk => by
    simp only [Expression.step, Expression.inversion, h1, Bool.false_eq_true, if_false]
    exact chain_ends (h k hk) h2

theorem Reads.disjunction (h : Reads d .inversion ts e rest) (hr : endsPhrase rest = true) :
    Reads (d + 1) .disjunction ts e rest := by
  obtain ⟨-, h1, -⟩ := phrase_ends hr
  exact reads_step fun k hk => chain_ends (h k hk) h1

theorem Reads.expression (h : Reads d .disjunction ts e rest) (hs : atWord "lambda" ts = false)
    (hr : endsPhrase rest = true) : Reads (d + 1) .expression ts e rest := by
  obtain ⟨-, -, h1, -⟩ := phrase_ends hr
  exact reads_step fun k hk => by simp [Expression.step, Expression.expression, hs, h k hk, h1]

/-- A primary that nothing goes on with is an expression. -/
theorem Reads.toExpression (h : Reads d .primary ts e rest) (hs : startsPrimary ts = true) (hr : endsPhrase rest = true) :
    Reads (d + 5) .expression ts e rest := by
  have ho := endsOperand_of_endsPhrase hr
  obtain ⟨-, -, -, hl, -⟩ := primary_starts hs
  exact ((((h.operand hs ho).sum ho).inversion hs hr).disjunction hr).expression hl hr

/-- Is no value given to a name at the head of the tokens? -/
def assignsNothing (ts : Tokens) : Prop :=
  ∀ s n rest, ts = ⟨.name s, n⟩ :: rest → atSymbol ":=" rest = false ∧ atSymbol "=" rest = false

theorem assigns_of_name (h : assignsNothing ts) {s : String} (hn : name ts = some (s, rest)) :
    atSymbol ":=" rest = false ∧ atSymbol "=" rest = false := by
  unfold name at hn
  split at hn
  · simp only [Option.some.injEq, Prod.mk.injEq] at hn
    obtain ⟨rfl, rfl⟩ := hn
    exact h _ _ _ rfl
  · cases hn

theorem Reads.named (h : Reads d .expression ts e rest) (ha : assignsNothing ts) : Reads (d + 1) .named ts e rest := by
  refine reads_step fun k hk => ?_
  simp only [Expression.step, Expression.named]
  split
  · rename_i hn
    simp [(assigns_of_name ha hn).1, h k hk]
  · exact h k hk

theorem starredOr_plain {phrases : Phrases} (hs : atSymbol "*" ts = false) (p : Phrase) :
    starredOr phrases p ts = phrases p ts := by
  simp [starredOr, symbol, hs]

theorem afterCommas_none {α : Type} (fuel : Nat) (item : Rule α) (read : List α) (h : atSymbol "," ts = false) :
    afterCommas fuel item read ts = ((read.reverse, false), ts) := by
  cases fuel <;> simp [afterCommas, symbol, h]

theorem Reads.list (h : Reads d .expression ts e rest) (hs : startsPrimary ts = true) (hr : atSymbol "," rest = false) :
    Reads (d + 1) .list ts e rest := by
  obtain ⟨-, -, -, -, h1, -⟩ := primary_starts hs
  exact reads_step fun k hk => by
    simp [Expression.step, expressionList, commaList, starredOr_plain h1, h k hk, afterCommas_none _ _ _ hr]

/-! ## Atoms -/

variable {s : String}

theorem reads_name : Reads 1 .atom (⟨.name s, n⟩ :: rest) (.name s) rest := reads_step (d := 0) fun _ _ => rfl

theorem reads_none : Reads 1 .atom (⟨.keyword "None", n⟩ :: rest) .constant rest := reads_step (d := 0) fun _ _ => rfl

theorem reads_dots : Reads 1 .atom (⟨.symbol "...", n⟩ :: rest) .constant rest := reads_step (d := 0) fun _ _ => rfl

/-- A literal that no other one follows. -/
theorem reads_literal {l : Literal} (h : ∀ k, d ≤ k → joinedLiterals (phrase k) [l] = some e)
    (hr : endsPhrase rest = true) : Reads (d + 1) .atom (⟨.literal l, n⟩ :: rest) e rest := by
  have hl : literals rest = ([], rest) := by
    rcases endsPhrase_cases hr with ⟨s, n, ts, -, rfl⟩ | ⟨n, ts, rfl⟩ <;> rfl
  exact reads_step fun k hk => by simp [Expression.step, atom, literals, hl, h k hk]

theorem name_expression (hr : endsPhrase rest = true) : Reads 7 .expression (⟨.name s, n⟩ :: rest) (.name s) rest :=
  (reads_name.primary (endsOperand_of_endsPhrase hr)).toExpression rfl hr

theorem literal_expression {l : Literal} (h : ∀ k, d ≤ k → joinedLiterals (phrase k) [l] = some e)
    (hr : endsPhrase rest = true) : Reads (d + 7) .expression (⟨.literal l, n⟩ :: rest) e rest :=
  ((reads_literal h hr).primary (endsOperand_of_endsPhrase hr)).toExpression rfl hr

theorem reads_attribute {a b : String} (hr : endsOperand rest = true) {i j : Nat} :
    Reads 2 .primary (⟨.name a, n⟩ :: ⟨.symbol ".", i⟩ :: ⟨.name b, j⟩ :: rest) (.attribute (.name a) b) rest := by
  refine reads_step (d := 1) fun k hk => ?_
  simp only [Expression.step, Expression.primary, reads_name k hk, Option.bind_eq_bind, Option.bind_some,
    List.length_cons]
  rw [trailers, if_pos (by simp)]
  exact trailers_ends _ _ _ hr

/-! ## Brackets -/

/-- No phrase begins with a closing bracket. -/
theorem phrase_closing (k : Nat) (p : Phrase) : phrase k p (⟨.symbol ")", n⟩ :: rest) = none := by
  induction k generalizing p with
  | zero => rfl
  | succ k ih =>
    cases p <;> simp [phrase, Expression.step, expressionList, commaList, starredOr, symbol, Expression.named,
      Expression.expression, chain, Expression.inversion, Expression.operand, atSymbols,
      Expression.primary, atom, Expression.targets, name, ih]

/-- What stands in round brackets by itself. -/
theorem reads_round (h : Reads d .named ts e (⟨.symbol ")", n⟩ :: rest)) (hs : startsPrimary ts = true) :
    Reads (d + 1) .atom (⟨.symbol "(", m⟩ :: ts) e rest := by
  obtain ⟨-, -, -, -, h1, -, h2, h3, -⟩ := primary_starts hs
  exact reads_step fun k hk => by
    simp [Expression.step, atom, inParentheses, h1, h2, h3, starredOr_plain h1, h k hk, atClause,
      afterCommas_none, symbol]

/-- One item and a comma in round brackets. -/
theorem reads_tuple {i j : Nat} (h : Reads d .named ts e (⟨.symbol ",", i⟩ :: ⟨.symbol ")", j⟩ :: rest))
    (hs : startsPrimary ts = true) : Reads (d + 1) .atom (⟨.symbol "(", m⟩ :: ts) (.tuple [e]) rest := by
  obtain ⟨-, -, -, -, h1, -, h2, h3, -⟩ := primary_starts hs
  exact reads_step fun k hk => by
    simp [Expression.step, atom, inParentheses, h1, h2, h3, h k hk, atClause, afterCommas, symbol, starredOr,
      phrase_closing]

/-- One item in square brackets. -/
theorem reads_square (h : Reads d .named ts e (⟨.symbol "]", n⟩ :: rest)) (hs : startsPrimary ts = true) :
    Reads (d + 1) .atom (⟨.symbol "[", m⟩ :: ts) (.list [e]) rest := by
  obtain ⟨-, -, -, -, h1, -, -, -, h2, -⟩ := primary_starts hs
  exact reads_step fun k hk => by
    simp [Expression.step, atom, inBrackets, h1, h2, starredOr_plain h1, h k hk, atClause, afterCommas_none,
      symbol]

/-! ## Calls and items -/

/-- Phrases with a comma before each, read by `item`, and no comma after them. -/
inductive ReadsItems {α : Type} (item : Rule α) : Tokens → List α → Tokens → Prop
  | done {ts : Tokens} (h : atSymbol "," ts = false) : ReadsItems item ts [] ts
  | more {n : Nat} {ts ts' rest : Tokens} {a : α} {as : List α} (h : item ts = some (a, ts'))
      (hm : ReadsItems item ts' as rest) : ReadsItems item (⟨.symbol ",", n⟩ :: ts) (a :: as) rest

theorem afterCommas_items {α : Type} {item : Rule α} {as : List α} (h : ReadsItems item ts as rest) (fuel : Nat)
    (hf : as.length ≤ fuel) (read : List α) : afterCommas fuel item read ts = ((read.reverse ++ as, false), rest) := by
  induction h generalizing fuel read with
  | done h => simp [afterCommas_none _ _ _ h]
  | more h hm ih =>
    obtain ⟨fuel, rfl⟩ : ∃ k, fuel = k + 1 := ⟨fuel - 1, by simp only [List.length_cons] at hf; omega⟩
    simp only [List.length_cons, Nat.add_le_add_iff_right] at hf
    simp [afterCommas, symbol, h, ih fuel hf]

/-- Phrases with commas between them. -/
theorem commaList_items {α : Type} {item : Rule α} {a : α} {us : Tokens} (as : List α) (h : item ts = some (a, us))
    (hi : ReadsItems item us as rest) (hl : as.length ≤ ts.length) :
    commaList item ts = some ((a :: as, false), rest) := by
  simp [commaList, h, afterCommas_items hi ts.length hl]

theorem argument_plain {phrases : Phrases} (h : phrases .named ts = some (e, rest)) (hs : startsPrimary ts = true)
    (ha : assignsNothing ts) : argument phrases ts = some (.positional e, rest) := by
  obtain ⟨-, -, -, -, h1, h2, -⟩ := primary_starts hs
  simp only [argument, h1, h2, Bool.false_eq_true, if_false, h]
  split
  · rename_i hn
    simp [(assigns_of_name ha hn).2]
  · rfl

theorem argumentsFit_positional (es : List Expr) : argumentsFit false false (es.map .positional) = true := by
  induction es with
  | nil => rfl
  | cons e es ih => simp [argumentsFit, ih]

theorem values_positional (es : List Expr) : (es.map Argument.positional).filterMap (·.value?) = es := by
  induction es with
  | nil => rfl
  | cons e es ih =>
    have hvalue : (Argument.positional e).value? = some e := rfl
    rw [List.map_cons, List.filterMap_cons_some hvalue, ih]

/-- Arguments without names. -/
theorem arguments_positional {phrases : Phrases} {ts' : Tokens} (es : List Expr)
    (hs : startsPrimary ts = true) (h : argument phrases ts = some (.positional e, ts')) (hc : atClause ts' = false)
    (hi : ReadsItems (argument phrases) ts' (es.map .positional) (⟨.symbol ")", n⟩ :: rest))
    (hl : es.length ≤ ts'.length) : arguments phrases true ts = some ((e :: es, false), rest) := by
  obtain ⟨-, -, -, -, -, -, -, h1, -⟩ := primary_starts hs
  have ha := afterCommas_items hi ts'.length (by simpa using hl) [.positional e]
  have hfit := argumentsFit_positional (e :: es)
  have hval := values_positional (e :: es)
  simp only [List.map_cons] at hfit hval
  simp only [arguments, h1, h, hc, ha, symbol, atSymbol_cons, decide_true, Bool.false_eq_true, if_false, if_true,
    Option.bind_eq_bind, Option.bind_some, List.reverse_singleton, List.singleton_append, hfit, hval]
  simp

/-- A call of a name. -/
theorem reads_call {f : String} {es : List Expr} {b : Bool} {i : Nat}
    (h : ∀ k, d ≤ k → arguments (phrase k) true ts = some ((es, b), rest)) (hr : endsOperand rest = true) :
    Reads (d + 2) .primary (⟨.name f, n⟩ :: ⟨.symbol "(", i⟩ :: ts) (.call n (.name f) es b) rest := by
  refine reads_step (d := d + 1) fun k hk => ?_
  simp only [Expression.step, Expression.primary, reads_name k (by omega), Option.bind_eq_bind, Option.bind_some,
    List.length_cons]
  rw [trailers, if_neg (by simp), if_pos (by simp)]
  simp only [List.drop_succ_cons, List.drop_zero, h k (by omega), Option.bind_eq_bind, Option.bind_some]
  exact trailers_ends _ _ _ hr

theorem slice_plain {phrases : Phrases} (h : phrases .named ts = some (e, rest)) (hs : startsPrimary ts = true)
    (hr : atSymbol ":" rest = false) : slice phrases ts = some (.other, rest) := by
  obtain ⟨-, -, -, -, h1, -, -, -, -, h2⟩ := primary_starts hs
  simp [slice, h1, h2, h, hr]

/-- An item of a name. -/
theorem reads_item {a : String} {r : List Expr × Bool} {i j : Nat}
    (h : ∀ k, d ≤ k → commaList (slice (phrase k)) ts = some (r, ⟨.symbol "]", j⟩ :: rest)) (hr : endsOperand rest = true) :
    Reads (d + 2) .primary (⟨.name a, n⟩ :: ⟨.symbol "[", i⟩ :: ts) (.item (.name a)) rest := by
  refine reads_step (d := d + 1) fun k hk => ?_
  simp only [Expression.step, Expression.primary, reads_name k (by omega), Option.bind_eq_bind, Option.bind_some,
    List.length_cons]
  rw [trailers, if_neg (by simp), if_neg (by simp), if_pos (by simp)]
  simp only [List.drop_succ_cons, List.drop_zero, h k (by omega), Option.bind_eq_bind, Option.bind_some, symbol,
    atSymbol_cons, decide_true, if_true]
  exact trailers_ends _ _ _ hr

/-! ## Parameters -/

/-- A parameter without a type and a default. -/
theorem parameter_name {phrases : Phrases} (h1 : atSymbol ":" rest = false) (h2 : atSymbol "=" rest = false) :
    parameter phrases true (⟨.name s, n⟩ :: rest) = some (.plain false, rest) := by
  simp [parameter, typeHint, parameterDefault, symbol, h1, h2]

/-- A parameter of a type for all arguments that are left. -/
theorem parameter_star {phrases : Phrases} {i j : Nat} (hs : startsPrimary ts = true)
    (h : phrases .expression ts = some (e, rest)) :
    parameter phrases true (⟨.symbol "*", n⟩ :: ⟨.name s, i⟩ :: ⟨.symbol ":", j⟩ :: ts) = some (.rest, rest) := by
  obtain ⟨-, -, -, -, h1, -⟩ := primary_starts hs
  simp [parameter, typeHint, symbol, h1, h]

/-- Parameters up to the round bracket that closes them. -/
theorem parameters_items {phrases : Phrases} {p : Parameter} {us : Tokens} (ps : List Parameter)
    (hs : atSymbol ")" ts = false) (h : parameter phrases true ts = some (p, us))
    (hi : ReadsItems (parameter phrases true) us ps (⟨.symbol ")", n⟩ :: rest)) (hl : ps.length ≤ ts.length)
    (hf : parametersFit (p :: ps) = true) : parameters phrases true ")" ts = some (⟨.symbol ")", n⟩ :: rest) := by
  simp [parameters, hs, commaList_items ps h hi hl, hf]

/-! ## Conditions -/

theorem reads_not (h : Reads d .inversion ts e rest) : Reads (d + 1) .inversion (⟨.keyword "not", n⟩ :: ts) .other rest :=
  reads_step fun k hk => by simp [Expression.step, Expression.inversion, h k hk]

/-- A membership. -/
theorem reads_in {e' : Expr} {ts' : Tokens} (h : Reads d .sum ts e (⟨.keyword "in", n⟩ :: ts')) (h' : Reads d .sum ts' e' rest)
    (hs : startsPrimary ts = true) (hr : endsPhrase rest = true) : Reads (d + 1) .inversion ts .other rest := by
  obtain ⟨-, -, h1, -⟩ := primary_starts hs
  obtain ⟨h2, -⟩ := phrase_ends hr
  have hin : comparison (⟨.keyword "in", n⟩ :: ts') = some ts' := by simp [comparison, atSymbols]
  exact reads_step fun k hk => by
    simp only [Expression.step, Expression.inversion, h1, Bool.false_eq_true, if_false]
    exact chain_more (by rintro rfl; cases hs) (h k hk) hin (h' k hk) h2

/-- An operand of a condition, as the condition. -/
theorem Reads.condition (h : Reads d .inversion ts e rest) (hl : atWord "lambda" ts = false) (ha : assignsNothing ts)
    (hr : endsPhrase rest = true) : Reads (d + 3) .named ts e rest :=
  ((h.disjunction hr).expression hl hr).named ha

end CrudQueries.Source
