/-
  CrudQueries.Proofs.Source.Blocks — what statements are read as.

  `Says d ts ss rest` says that from depth `d` on the statement at the head of the tokens is `ss`.
  A line is read from its phrases; a class, a function and a condition from the statements inside
  them (`SaysAll`). A source whose statements are read one after the other is all of them
  (`read?_of_saysAll`), and one that comes to a statement that cannot be read is none
  (`read?_of_stuck`).
-/

import CrudQueries.Proofs.Source.Phrases
import CrudQueries.Source.Statement

namespace CrudQueries.Source

open Statement

/-- From depth `d` on, the statements at the head of `ts` are `ss`, and `rest` follows them. -/
structure Says (d : Nat) (ts : Tokens) (ss : List Stmt) (rest : Tokens) : Prop where
  reads : ∀ k, d ≤ k → statement k ts = some (ss, rest)
  shorter : rest.length < ts.length

variable {d n : Nat} {ts us rest : Tokens} {ss ss' : List Stmt} {e : Expr} {s : String}

theorem Says.mono {d' : Nat} (h : Says d ts ss rest) (hd : d ≤ d') : Says d' ts ss rest :=
  ⟨fun k hk => h.reads k (Nat.le_trans hd hk), h.shorter⟩

theorem says_step (h : ∀ k, d ≤ k → Statement.step k (statement k) ts = some (ss, rest)) (hl : rest.length < ts.length) :
    Says (d + 1) ts ss rest := by
  refine ⟨fun k hk => ?_, hl⟩
  obtain ⟨k, rfl⟩ : ∃ j, k = j + 1 := ⟨k - 1, by omega⟩
  exact h k (by omega)

/-! ## Simple statements -/

/-- Does a token follow that begins no statement with others in it? -/
def startsSimple : Tokens → Bool
  | ⟨.symbol s, _⟩ :: _ => s != "@"
  | ⟨.keyword s, _⟩ :: _ => simpleKeywords.contains s
  | ⟨.name s, _⟩ :: _ => s != "match"
  | ⟨.literal _, _⟩ :: _ => true
  | _ => false

theorem step_simple {k : Nat} {statement : Statements} (h : startsSimple ts = true) :
    Statement.step k statement ts = simpleLine (phrase k) ts.length [] ts := by
  unfold startsSimple at h
  split at h
  · have : ‹String› ≠ "@" := by simpa using h
    simp [Statement.step, this]
  · rename_i s n ts
    have hs : s ∈ simpleKeywords := List.contains_iff_mem.mp h
    have hc : (s == "class") = false ∧ compoundKeywords.contains s = false := by
      simp only [simpleKeywords, List.mem_cons, List.not_mem_nil, or_false] at hs
      rcases hs with rfl | rfl | rfl | rfl | rfl | rfl | rfl | rfl | rfl | rfl | rfl <;> decide
    simp only [Statement.step, hc, Bool.false_eq_true, if_false]
  · have : ‹String› ≠ "match" := by simpa using h
    simp [Statement.step, this]
  · rfl
  · cases h

theorem simpleLine_one {phrases : Phrases} {x : Stmt} (h : simple phrases ts = some (x, ⟨.lineEnd, n⟩ :: rest))
    (hl : rest.length < ts.length) : simpleLine phrases ts.length [] ts = some ([x], rest) := by
  obtain ⟨t, ts, rfl⟩ : ∃ t us, ts = t :: us := List.exists_cons_of_ne_nil (by rintro rfl; simp at hl)
  simp [simpleLine, h, symbol, lineEnd]

/-- A simple statement on a line of its own. -/
theorem says_simple {x : Stmt} (hs : startsSimple ts = true)
    (h : ∀ k, d ≤ k → simple (phrase k) ts = some (x, ⟨.lineEnd, n⟩ :: rest)) (hl : rest.length < ts.length) :
    Says (d + 1) ts [x] rest :=
  says_step (fun k hk => by rw [step_simple hs, simpleLine_one (h k hk) hl]) hl

theorem simple_expression {phrases : Phrases} (hs : startsPrimary ts = true) (hn : startsSimple ts = true) :
    simple phrases ts = expressionOrAssignment phrases ts := by
  unfold startsPrimary at hs
  split at hs <;> first | rfl | skip
  · rw [beq_iff_eq] at hs
    subst hs
    exact absurd hn (by simp [startsSimple, simpleKeywords])
  · cases hs

/-- An expression by itself. -/
theorem says_expression (h : Reads d .expression ts e (⟨.lineEnd, n⟩ :: rest)) (hs : startsPrimary ts = true)
    (hn : startsSimple ts = true) (hl : rest.length < ts.length) : Says (d + 2) ts [.other] rest := by
  have hlist := h.list hs (by simp)
  refine says_simple (n := n) hn (fun k hk => ?_) hl
  simp [simple_expression hs hn, expressionOrAssignment, hlist k hk, atSymbols]

/-- An assignment to a name. -/
theorem says_assign {v : Expr} {i j : Nat} (hd : 7 ≤ d) (h : Reads d .expression us v (⟨.lineEnd, n⟩ :: rest))
    (hs : startsPrimary us = true) (hn : s ≠ "match") (hl : rest.length < us.length) :
    Says (d + 2) (⟨.name s, i⟩ :: ⟨.symbol "=", j⟩ :: us) [.assign [.name s] v] rest := by
  have hlist := h.list hs (by simp)
  have hname : Reads (d + 1) .list (⟨.name s, i⟩ :: ⟨.symbol "=", j⟩ :: us) (.name s) (⟨.symbol "=", j⟩ :: us) :=
    ((name_expression rfl).list rfl (by simp)).mono (by omega)
  obtain ⟨-, -, -, -, -, -, hy, -⟩ := primary_starts hs
  refine says_simple (n := n) (by simpa [startsSimple] using hn) (fun k hk => ?_) (by simp only [List.length_cons]; omega)
  simp [simple, expressionOrAssignment, hname k hk, Expr.isStarTarget, Expr.isTarget, assignment, rightSide, hy,
    hlist k hk]

/-- An annotated attribute with its value. -/
theorem says_annotated {a b : String} {t v : Expr} {i j m o p : Nat} {vs : Tokens} (hd : 7 ≤ d)
    (ht : Reads d .expression us t (⟨.symbol "=", o⟩ :: vs)) (h : Reads d .expression vs v (⟨.lineEnd, p⟩ :: rest))
    (hs : startsPrimary vs = true) (hn : a ≠ "match") (hl : rest.length < us.length) :
    Says (d + 2) (⟨.name a, i⟩ :: ⟨.symbol ".", j⟩ :: ⟨.name b, n⟩ :: ⟨.symbol ":", m⟩ :: us)
      [.annotate (.attribute (.name a) b) (some v)] rest := by
  have hlist := h.list hs (by simp)
  have hname : Reads (d + 1) .list (⟨.name a, i⟩ :: ⟨.symbol ".", j⟩ :: ⟨.name b, n⟩ :: ⟨.symbol ":", m⟩ :: us)
      (.attribute (.name a) b) (⟨.symbol ":", m⟩ :: us) :=
    (((reads_attribute rfl).toExpression rfl rfl).list rfl (by simp)).mono (by omega)
  obtain ⟨-, -, -, -, -, -, hy, -⟩ := primary_starts hs
  refine says_simple (n := p) (by simpa [startsSimple] using hn) (fun k hk => ?_)
    (by simp only [List.length_cons]; omega)
  simp [simple, expressionOrAssignment, hname k hk, isAnnotatable, Expr.isSingleTarget, ht k (by omega), rightSide, hy,
    hlist k hk, symbol]

theorem says_return {i : Nat} (h : Reads d .expression ts e (⟨.lineEnd, n⟩ :: rest)) (hs : startsPrimary ts = true)
    (hl : rest.length < ts.length) : Says (d + 2) (⟨.keyword "return", i⟩ :: ts) [.other] rest := by
  have hlist := h.list hs (by simp)
  refine says_simple (n := n) rfl (fun k hk => ?_) (by simp only [List.length_cons]; omega)
  simp [simple, simpleKeywords, keywordStatement, maybe, hlist k hk]

theorem says_raise {i : Nat} (h : Reads d .expression ts e (⟨.lineEnd, n⟩ :: rest)) (hl : rest.length < ts.length) :
    Says (d + 1) (⟨.keyword "raise", i⟩ :: ts) [.other] rest := by
  refine says_simple (n := n) rfl (fun k hk => ?_) (by simp only [List.length_cons]; omega)
  simp [simple, simpleKeywords, keywordStatement, h k hk]

/-- The import of a name from a module. -/
theorem says_importFrom {a b : String} {i j m o : Nat} : Says 1 (⟨.keyword "from", i⟩ :: ⟨.name a, j⟩ ::
    ⟨.keyword "import", m⟩ :: ⟨.name b, o⟩ :: ⟨.lineEnd, n⟩ :: rest) [.other] rest := by
  refine says_simple (d := 0) (n := n) rfl (fun k _ => ?_) (by simp only [List.length_cons]; omega)
  simp [simple, simpleKeywords, keywordStatement, importFrom, leadingDots, atSymbols, dottedName, Pattern.dotted,
    Pattern.dotted.go, symbol, word, importNames, commaSeparated, commaList, Skip.rule, asName, afterCommas_none]

/-! ## Blocks -/

/-- Does a token follow that ends a block? -/
def endsBlock : Tokens → Bool
  | ⟨.dedent, _⟩ :: _ | ⟨.finish, _⟩ :: _ => true
  | _ => false

/-- From depth `d` on, the statements at the head of `ts` up to `rest` are `ss`. -/
inductive SaysAll (d : Nat) : Tokens → List Stmt → Tokens → Prop
  | done {ts : Tokens} : SaysAll d ts [] ts
  | more {ts us rest : Tokens} {ss ss' : List Stmt} (h : Says d ts ss us) (hn : endsBlock ts = false)
      (hm : SaysAll d us ss' rest) : SaysAll d ts (ss ++ ss') rest

theorem SaysAll.length_le (h : SaysAll d ts ss rest) : rest.length ≤ ts.length := by
  induction h with
  | done => exact Nat.le_refl _
  | more h _ _ ih =>
    have := h.shorter
    omega

theorem statements_more {statement : Statements} (hn : endsBlock ts = false) (fuel : Nat) (read : List (List Stmt)) :
    statements statement (fuel + 1) read ts =
      (statement ts).bind fun (ss, rest) => statements statement fuel (ss :: read) rest := by
  unfold endsBlock at hn
  split at hn
  · cases hn
  · cases hn
  · rw [statements]
    · rfl
    all_goals simp_all

theorem statements_end {statement : Statements} (h : endsBlock ts = true) {fuel : Nat} (hf : 0 < fuel)
    (read : List (List Stmt)) : statements statement fuel read ts = some (read.reverse.flatten, ts) := by
  obtain ⟨fuel, rfl⟩ : ∃ j, fuel = j + 1 := ⟨fuel - 1, by omega⟩
  unfold endsBlock at h
  split at h
  · rfl
  · rfl
  · cases h

/-- Statements that can be read are read; what follows them decides. -/
theorem statements_run (h : SaysAll d ts ss rest) {k : Nat} (hk : d ≤ k) {fuel : Nat} (hf : ts.length ≤ fuel)
    (read : List (List Stmt)) : ∃ fuel' read', rest.length ≤ fuel' ∧ read'.reverse.flatten = read.reverse.flatten ++ ss ∧
      statements (statement k) fuel read ts = statements (statement k) fuel' read' rest := by
  induction h generalizing fuel read with
  | done => exact ⟨fuel, read, hf, by simp, rfl⟩
  | @more ts us rest ss ss' h hn hm ih =>
    have hlt := h.shorter
    obtain ⟨fuel, rfl⟩ : ∃ j, fuel = j + 1 := ⟨fuel - 1, by omega⟩
    obtain ⟨fuel', read', hf', hr, he⟩ := ih (by omega : us.length ≤ fuel) (ss :: read)
    refine ⟨fuel', read', hf', by simpa using hr, ?_⟩
    rw [statements_more hn, h.reads k hk]
    exact he

theorem block_all (h : SaysAll d ts ss (⟨.dedent, n⟩ :: rest)) {k i j : Nat} (hk : d ≤ k) :
    block (phrase k) (statement k) (⟨.lineEnd, i⟩ :: ⟨.indent, j⟩ :: ts) = some (ss, rest) := by
  obtain ⟨fuel, read, hf, hr, he⟩ := statements_run h hk (Nat.le_refl _) []
  have hs := he.trans (statements_end rfl (Nat.lt_of_lt_of_le (by simp) hf) read)
  simp [block, hs, hr]

theorem suite_all (h : SaysAll d ts ss (⟨.dedent, n⟩ :: rest)) {k i j m : Nat} (hk : d ≤ k) :
    suite (phrase k) (statement k) (⟨.symbol ":", m⟩ :: ⟨.lineEnd, i⟩ :: ⟨.indent, j⟩ :: ts) = some (ss, rest) := by
  simp [suite, symbol, block_all h hk]

/-- A class without bases. -/
theorem says_class {i j m o p : Nat} (h : SaysAll d ts ss (⟨.dedent, n⟩ :: rest)) :
    Says (d + 1) (⟨.keyword "class", i⟩ :: ⟨.name s, j⟩ :: ⟨.symbol ":", m⟩ :: ⟨.lineEnd, o⟩ :: ⟨.indent, p⟩ :: ts)
      [.classDef s i [] ss] rest := by
  have hl := h.length_le
  refine says_step (fun k hk => ?_) (by simp only [List.length_cons] at hl ⊢; omega)
  have hs : suite (phrase k) (fun ts => statement k ts) (⟨.symbol ":", m⟩ :: ⟨.lineEnd, o⟩ :: ⟨.indent, p⟩ :: ts) =
      some (ss, rest) := suite_all h hk
  simp [Statement.step, classBody, hs]

/-- A class needs a name. -/
theorem statement_class_none {i : Nat} (h : name ts = none) (k : Nat) : statement k (⟨.keyword "class", i⟩ :: ts) = none := by
  cases k with
  | zero => rfl
  | succ k => simp [statement, Statement.step, classBody, h]

/-- The tokens after the type of a result, if there is one. -/
def afterResult (phrases : Phrases) (ts : Tokens) : Option Tokens :=
  match symbol "->" ts with
  | none => some ts
  | some ts => (phrases .expression ts).map (·.2)

theorem afterResult_none {phrases : Phrases} (h : atSymbol "->" ts = false) : afterResult phrases ts = some ts := by
  simp [afterResult, symbol, h]

theorem afterResult_type {phrases : Phrases} {i : Nat} (h : phrases .expression ts = some (e, rest)) :
    afterResult phrases (⟨.symbol "->", i⟩ :: ts) = some rest := by
  simp [afterResult, symbol, h]

/-- A function; `us` is what follows its parameters. -/
theorem says_def {qs us : Tokens} {i j m o p r t : Nat}
    (hp : ∀ k, d ≤ k → Expression.parameters (phrase k) true ")" qs = some (⟨.symbol ")", m⟩ :: us))
    (hu : ∀ k, d ≤ k → afterResult (phrase k) us = some (⟨.symbol ":", r⟩ :: ⟨.lineEnd, o⟩ :: ⟨.indent, p⟩ :: ts))
    (hl : ts.length < qs.length) (h : SaysAll d ts ss (⟨.dedent, n⟩ :: rest)) :
    Says (d + 1) (⟨.keyword "def", i⟩ :: ⟨.name s, j⟩ :: ⟨.symbol "(", t⟩ :: qs) [.block ss] rest := by
  have hlen := h.length_le
  refine says_step (fun k hk => ?_) (by simp only [List.length_cons] at hlen ⊢; omega)
  have hs : suite (phrase k) (fun ts => statement k ts) (⟨.symbol ":", r⟩ :: ⟨.lineEnd, o⟩ :: ⟨.indent, p⟩ :: ts) =
      some (ss, rest) := suite_all h hk
  have hf : function (phrase k) (fun ts => statement k ts) (⟨.name s, j⟩ :: ⟨.symbol "(", t⟩ :: qs) = some (ss, rest) := by
    have h1 : symbol "(" (⟨.symbol "(", t⟩ :: qs) = some qs := rfl
    have h2 : symbol ")" (⟨.symbol ")", m⟩ :: us) = some us := rfl
    have hr := hu k hk
    simp only [function, name, Option.bind_eq_bind, Option.bind_some, h1, hp k hk, h2]
    unfold afterResult at hr
    cases ha : symbol "->" us with
    | none =>
      simp only [ha] at hr ⊢
      rw [Option.some.inj hr, hs]
    | some vs =>
      simp only [ha] at hr ⊢
      rw [hr, Option.bind_some, hs]
  simp [Statement.step, compoundKeywords, compound, hf]

/-- A condition with one branch. -/
theorem says_if {qs : Tokens} {i m o p : Nat}
    (hc : Reads d .named qs e (⟨.symbol ":", m⟩ :: ⟨.lineEnd, o⟩ :: ⟨.indent, p⟩ :: ts)) (hl : ts.length < qs.length)
    (h : SaysAll d ts ss (⟨.dedent, n⟩ :: rest)) (h1 : atWord "elif" rest = false) (h2 : atWord "else" rest = false) :
    Says (d + 1) (⟨.keyword "if", i⟩ :: qs) [.block ss] rest := by
  have hlen := h.length_le
  refine says_step (fun k hk => ?_) (by simp only [List.length_cons] at hlen ⊢; omega)
  have hs : suite (phrase k) (fun ts => statement k ts) (⟨.symbol ":", m⟩ :: ⟨.lineEnd, o⟩ :: ⟨.indent, p⟩ :: ts) =
      some (ss, rest) := suite_all h hk
  have hf : conditional (phrase k) (fun ts => statement k ts) qs.length qs = some (ss, rest) := by
    obtain ⟨fuel, hq⟩ : ∃ j, qs.length = j + 1 := ⟨qs.length - 1, by omega⟩
    rw [hq]
    simp [conditional, hc k hk, hs, h1, optionalSuite, h2]
  simp [Statement.step, compoundKeywords, compound, hf]

/-! ## Sources -/

/-- A source of statements that can be read is read as them. -/
theorem read?_of_saysAll {source : String} (ht : Lexer.tokens? source.toList = some ts)
    (h : SaysAll d ts ss [⟨.finish, n⟩]) (hd : d ≤ depthFor source.toList.length) : read? source = some ss := by
  obtain ⟨fuel, read, hf, hr, he⟩ := statements_run h hd (Nat.le_succ _) []
  have hs := he.trans (statements_end rfl (Nat.lt_of_lt_of_le (by simp) hf) read)
  simp only [read?, ht, Option.bind_eq_bind, Option.bind_some, hs]
  simpa using hr

/-- A source without tokens cannot be read. -/
theorem read?_of_tokens {source : String} (ht : Lexer.tokens? source.toList = none) : read? source = none := by
  simp [read?, ht]

/-- A source that comes to a statement that cannot be read is none. -/
theorem read?_of_stuck {source : String} (ht : Lexer.tokens? source.toList = some ts) (h : SaysAll d ts ss rest)
    (hd : d ≤ depthFor source.toList.length) (hn : endsBlock rest = false) (hs : ∀ k, statement k rest = none) :
    read? source = none := by
  obtain ⟨fuel, read, -, -, he⟩ := statements_run h hd (Nat.le_succ _) []
  have hnone : statements (statement (depthFor source.toList.length)) fuel read rest = none := by
    cases fuel with
    | zero => rfl
    | succ fuel => rw [statements_more hn, hs, Option.bind_none]
  simp only [read?, ht, Option.bind_eq_bind, Option.bind_some, he.trans hnone]

end CrudQueries.Source
