/-
  CrudQueries.Proofs.Source.Written — the tokens of source that is written line by line.

  A line is written from items: words, marks, literals and gaps (`Item`). Where each item may stand
  before the character that follows it (`joints`), a line is read item by item (`readTokens_items`)
  and a text line by line (`readLine_lines`), so the tokens of a text are those of its items with an
  end after each line and the blocks that the margins open and close (`tokens?_lines`). Where some
  item is not read, the whole text has no tokens (`tokens?_stuck`).
-/

import CrudQueries.Proofs.Source.Token
import CrudQueries.Proofs.Text.Lines
import CrudQueries.Source.Rule

namespace CrudQueries.Source

open CrudQueries.Text (isNameChars mem_isNameChars isDigit lineChars)
open CrudQueries.Text.Quoted (escape)
open Lexer (State margin newlines readLine readTokens token wordLexeme endsWord mayStartName isQuote)

/-! ## Items -/

/-- The symbols that lines are written with. -/
inductive Mark where
  | openRound | closeRound | openSquare | closeSquare | comma | colon | equals | dot | dots | star | arrow
  deriving DecidableEq

def Mark.text : Mark → String
  | openRound => "("
  | closeRound => ")"
  | openSquare => "["
  | closeSquare => "]"
  | comma => ","
  | colon => ":"
  | equals => "="
  | dot => "."
  | dots => "..."
  | star => "*"
  | arrow => "->"

/-- Would the mark be read by itself before `d`? -/
def Mark.endsAt (d : Char) : Mark → Bool
  | colon | equals => '=' != d
  | dot => '.' != d && !isDigit d
  | star => '*' != d && '=' != d
  | _ => true

/-- A piece of a line of source. -/
inductive Item where
  | word (w : String)
  | mark (m : Mark)
  | quoted (cs : List Char)
  | formatted (cs : List Char)
  | long (cs : List Char)
  | gap

namespace Item

def chars : Item → List Char
  | word w => w.toList
  | mark m => m.text.toList
  | quoted cs => '"' :: (escape cs ++ ['"'])
  | formatted cs => 'f' :: '"' :: (escape cs ++ ['"'])
  | long cs => '"' :: '"' :: '"' :: (cs ++ ['"', '"', '"'])
  | gap => [' ']

def lexeme? : Item → Option Lexeme
  | word w => some (wordLexeme w.toList)
  | mark m => some (.symbol m.text)
  | quoted cs => some (.literal ⟨false, false, false, escape cs⟩)
  | formatted cs => some (.literal ⟨false, false, true, escape cs⟩)
  | long cs => some (.literal ⟨false, false, false, cs⟩)
  | gap => none

/-- Does the item end before the character `d`? -/
def endsAt (d : Char) : Item → Bool
  | word _ => endsWord d
  | mark m => m.endsAt d
  | quoted _ | formatted _ => d != '"'
  | long _ | gap => true

/-- Is the item's text one that its form can hold? -/
def Good : Item → Prop
  | word w => isNameChars w.toList = true
  | quoted cs | formatted cs => '\n' ∉ cs
  | long cs => '\\' ∉ cs ∧ '"' ∉ cs
  | mark _ | gap => True

instance decidableGood : (i : Item) → Decidable i.Good
  | word w => inferInstanceAs (Decidable (isNameChars w.toList = true))
  | quoted cs | formatted cs => inferInstanceAs (Decidable ('\n' ∉ cs))
  | long cs => inferInstanceAs (Decidable ('\\' ∉ cs ∧ '"' ∉ cs))
  | mark _ | gap => .isTrue trivial

end Item

/-- The first character of items before `d`. -/
def nextChar (d : Char) : List Item → Char
  | [] => d
  | i :: _ => i.chars.headD d

/-- Does every item end before the next one, and the last one before `d`? -/
def joints (d : Char) : List Item → Bool
  | [] => true
  | i :: is => i.endsAt (nextChar d is) && joints d is

/-- Is there an item, and is the first one no gap? -/
def begins : List Item → Bool
  | [] | .gap :: _ => false
  | _ => true

/-- The characters of items. -/
def itemChars (is : List Item) : List Char := is.flatMap Item.chars

/-- The lexemes of items. -/
def lexemes (is : List Item) : List Lexeme := is.filterMap Item.lexeme?

/-- The lines that a lexeme goes on after its first one. -/
def Lexeme.lines : Lexeme → Nat
  | .literal l => newlines l.body
  | _ => 0

/-- Lexemes as tokens, from line `n` on. -/
def tokensAt (n : Nat) : List Lexeme → Tokens
  | [] => []
  | l :: ls => ⟨l, n⟩ :: tokensAt (n + l.lines) ls

/-- The line of what follows lexemes from line `n` on. -/
def lineAfter (n : Nat) (ls : List Lexeme) : Nat := ls.foldl (fun n l => n + l.lines) n

/-- The open brackets after a lexeme. -/
def nest (open' : List String) : Lexeme → Option (List String)
  | .symbol s => (({ brackets := open' } : State).bracket s).map (·.brackets)
  | _ => some open'

/-! ## Tokens of items -/

/-- Characters that begin no token. -/
def startsToken (c : Char) : Bool := !([' ', '\t', '\x0c', '#', '\n', '\\'].contains c)

theorem bracket_eq (st : State) (s : String) :
    st.bracket s = (nest st.brackets (.symbol s)).map fun bs => { st with brackets := bs } := by
  unfold nest State.bracket
  by_cases ho : (s == "(" || s == "[" || s == "\x7b") = true
  · by_cases hl : st.brackets.length ≥ Lexer.bracketLimit <;> simp [ho, hl]
  · by_cases hc : (s == ")" || s == "]" || s == "\x7d") = true
    · cases hb : st.brackets with
      | nil => simp [ho, hc]
      | cons b bs => by_cases hm : Lexer.closes b s = true <;> simp [ho, hc, hm]
    · simp [ho, hc]

/-- One token is read and noted. -/
theorem readTokens_token {st : State} {c : Char} {cs rest : List Char} {l : Lexeme} {bs : List String}
    (hc : startsToken c = true) (ht : token (c :: cs) = some (l, rest)) (hb : nest st.brackets l = some bs)
    (fuel : Nat) :
    readTokens (fuel + 1) st (c :: cs) =
      readTokens fuel { st with brackets := bs, tokens := ⟨l, st.line⟩ :: st.tokens, line := st.line + l.lines } rest := by
  simp only [startsToken, Bool.not_eq_true', List.contains_eq_mem, decide_eq_false_iff_not, List.mem_cons,
    List.not_mem_nil, or_false, not_or] at hc
  obtain ⟨h1, h2, h3, h4, h5, h6⟩ := hc
  simp [readTokens, h1, h2, h3, h4, h5, h6, ht]
  cases l with
  | symbol s =>
    have hs : (st.push (.symbol s)).bracket s = some { st.push (.symbol s) with brackets := bs } := by
      rw [bracket_eq, show (st.push (.symbol s)).brackets = st.brackets from rfl, hb]
      rfl
    simp only [hs, Option.bind_some]
    rfl
  | _ =>
    obtain rfl : st.brackets = bs := Option.some.inj hb
    rfl

/-- Where no token is read, the text has none. -/
theorem readTokens_stuck {st : State} {c : Char} {cs : List Char} (hc : startsToken c = true)
    (ht : token (c :: cs) = none) (fuel : Nat) : readTokens fuel st (c :: cs) = none := by
  simp only [startsToken, Bool.not_eq_true', List.contains_eq_mem, decide_eq_false_iff_not, List.mem_cons,
    List.not_mem_nil, or_false, not_or] at hc
  obtain ⟨h1, h2, h3, h4, h5, h6⟩ := hc
  cases fuel with
  | zero => rfl
  | succ fuel => simp [readTokens, h1, h2, h3, h4, h5, h6, ht]

/-- No longer symbol than the mark is at its place. -/
theorem find_mark {m : Mark} {d : Char} (h : m.endsAt d = true) (rest : List Char) :
    Lexer.symbols.find? (fun s => s.toList.isPrefixOf (m.text.toList ++ d :: rest)) = some m.text := by
  cases m <;> simp only [Mark.endsAt, Bool.and_eq_true, bne_iff_ne, ne_eq] at h <;>
    simp [Mark.text, Lexer.symbols, h]

theorem head_mark (m : Mark) : ∃ c cs, m.text.toList = c :: cs ∧ mayStartName c = false ∧ isQuote c = false ∧
    isDigit c = false ∧ c ≠ '<' ∧ startsToken c = true := by
  cases m <;> exact ⟨_, _, rfl, by decide⟩

/-- No digit follows a point that begins a mark. -/
theorem not_digit_mark {m : Mark} {c d : Char} {cs : List Char} (h : m.endsAt d = true) (hm : m.text.toList = c :: cs)
    (rest : List Char) : (c == '.' && ((cs ++ d :: rest).head?.map isDigit).getD false) = false := by
  cases m <;> simp [Mark.text] at hm <;> obtain ⟨rfl, rfl⟩ := hm <;> simp [Mark.endsAt] at h ⊢
  case dot => exact h.2
  case dots => decide

/-- A mark is read by itself. -/
theorem token_mark {m : Mark} {d : Char} (h : m.endsAt d = true) (rest : List Char) :
    token (m.text.toList ++ d :: rest) = some (.symbol m.text, d :: rest) := by
  have hf := find_mark h rest
  obtain ⟨c, cs, hm, hname, hquote, hdigit, hless, -⟩ := head_mark m
  have hn := not_digit_mark h hm rest
  have hl : m.text.length = cs.length + 1 := by rw [← String.length_toList, hm, List.length_cons]
  have hless : ('<' == c) = false := by simpa using Ne.symm hless
  rw [hm, List.cons_append] at hf ⊢
  simp only [token, hname, hquote, hdigit, hn, Bool.false_or, Bool.false_eq_true, if_false, Lexer.symbolToken,
    List.isPrefixOf, hless, Bool.false_and, hf, Option.map_some, hl, List.drop_succ_cons, List.drop_left]

/-- An item that is not a gap begins a token. -/
theorem head_item {i : Item} (hg : i.Good) (hn : i ≠ .gap) : ∃ c cs, i.chars = c :: cs ∧ startsToken c = true := by
  cases i with
  | word w =>
    obtain ⟨hne, hall⟩ := mem_isNameChars hg
    obtain ⟨c, cs, hw⟩ := List.exists_cons_of_ne_nil hne
    have hc : Text.isNameChar c = true := hall c (by simp [hw])
    refine ⟨c, cs, hw, ?_⟩
    simp only [startsToken, Bool.not_eq_true', List.contains_eq_mem, decide_eq_false_iff_not]
    intro hm
    simp only [List.mem_cons, List.not_mem_nil, or_false] at hm
    rcases hm with rfl | rfl | rfl | rfl | rfl | rfl <;> revert hc <;> decide
  | mark m =>
    obtain ⟨c, cs, hm, -, -, -, -, hs⟩ := head_mark m
    exact ⟨c, cs, hm, hs⟩
  | quoted cs => exact ⟨_, _, rfl, by decide⟩
  | formatted cs => exact ⟨_, _, rfl, by decide⟩
  | long cs => exact ⟨_, _, rfl, by decide⟩
  | gap => exact absurd rfl hn

/-- An item is read as its lexeme. -/
theorem token_item {i : Item} {l : Lexeme} {d : Char} (hg : i.Good) (he : i.endsAt d = true) (hl : i.lexeme? = some l)
    (rest : List Char) : token (i.chars ++ d :: rest) = some (l, d :: rest) := by
  cases i with
  | word w =>
    obtain rfl := Option.some.inj hl
    exact Lexer.token_word hg he rest
  | mark m =>
    obtain rfl := Option.some.inj hl
    exact token_mark he rest
  | quoted cs =>
    obtain rfl := Option.some.inj hl
    simpa [Item.chars] using Lexer.token_quoted hg (by simpa [Item.endsAt] using he) rest
  | formatted cs =>
    obtain rfl := Option.some.inj hl
    simpa [Item.chars] using Lexer.token_formatted hg (by simpa [Item.endsAt] using he) rest
  | long cs =>
    obtain rfl := Option.some.inj hl
    simpa [Item.chars] using Lexer.token_long hg.1 hg.2 (d :: rest)
  | gap => cases hl

theorem head_items {is : List Item} (hb : begins is = true) (hg : ∀ i ∈ is, i.Good) (rest : List Char) :
    ∃ c cs, itemChars is ++ rest = c :: cs ∧ startsToken c = true := by
  cases is with
  | nil => cases hb
  | cons i is =>
    obtain ⟨c, cs, hc, hs⟩ := head_item (hg i List.mem_cons_self) (by rintro rfl; cases hb)
    exact ⟨c, cs ++ (itemChars is ++ rest), by simp [itemChars, hc], hs⟩

theorem itemChars_cons (i : Item) (is : List Item) : itemChars (i :: is) = i.chars ++ itemChars is := by
  simp [itemChars]

theorem chars_ne_nil {i : Item} (hg : i.Good) : i.chars ≠ [] := by
  by_cases hn : i = .gap
  · subst hn; simp [Item.chars]
  · obtain ⟨c, cs, hc, -⟩ := head_item hg hn
    simp [hc]

/-- What stands after an item begins with the character that the joint is about. -/
theorem itemChars_next {is : List Item} (hg : ∀ i ∈ is, i.Good) (d : Char) (rest : List Char) :
    ∃ cs, itemChars is ++ d :: rest = nextChar d is :: cs := by
  cases is with
  | nil => exact ⟨rest, rfl⟩
  | cons i is =>
    obtain ⟨c, cs, hc⟩ := List.exists_cons_of_ne_nil (chars_ne_nil (hg i List.mem_cons_self))
    exact ⟨cs ++ (itemChars is ++ d :: rest), by simp [itemChars_cons, nextChar, hc]⟩

/-- Items are read one after the other. -/
theorem readTokens_items (is : List Item) {d : Char} (hg : ∀ i ∈ is, i.Good) (hj : joints d is = true) {st : State}
    {bs : List String} (hb : (lexemes is).foldlM nest st.brackets = some bs) (fuel : Nat) (rest : List Char) :
    readTokens (fuel + is.length) st (itemChars is ++ d :: rest) =
      readTokens fuel { st with brackets := bs, tokens := (tokensAt st.line (lexemes is)).reverse ++ st.tokens,
                                line := lineAfter st.line (lexemes is) } (d :: rest) := by
  -- One step of fuel for each item, for a gap too.
  induction is generalizing st with
  | nil =>
    obtain rfl : st.brackets = bs := Option.some.inj hb
    rfl
  | cons i is ih =>
    simp only [joints, Bool.and_eq_true] at hj
    have hgi := hg i List.mem_cons_self
    have hgs := fun j hm => hg j (List.mem_cons_of_mem _ hm)
    obtain ⟨cs, hcs⟩ := itemChars_next hgs d rest
    rw [itemChars_cons, List.append_assoc, List.length_cons, ← Nat.add_assoc]
    cases hl : i.lexeme? with
    | none =>
      have hi : i = .gap := by cases i <;> simp [Item.lexeme?] at hl ⊢
      subst hi
      have hs : lexemes (.gap :: is) = lexemes is := rfl
      rw [hs] at hb ⊢
      rw [← ih hgs hj.2 hb]
      simp [Item.chars, readTokens]
    | some l =>
      have hn : i ≠ .gap := by rintro rfl; cases hl
      have hs : lexemes (i :: is) = l :: lexemes is := by simp [lexemes, hl]
      obtain ⟨c, ds, hc, hstart⟩ := head_item hgi hn
      have ht := token_item hgi hj.1 hl cs
      rw [hs, List.foldlM_cons] at hb
      obtain ⟨bs', hn', hb⟩ := Option.bind_eq_some_iff.mp hb
      rw [hcs]
      rw [hc, List.cons_append] at ht ⊢
      rw [readTokens_token hstart ht hn', ← hcs, ih hgs hj.2 hb, hs]
      simp [tokensAt, lineAfter]

/-! ## Tokens of lines -/

/-- A line without tokens, or one of items after a margin of blanks. -/
inductive Line where
  | silent (cs : List Char)
  | written (margin : Nat) (items : List Item)

namespace Line

def chars : Line → List Char
  | silent cs => cs
  | written n is => List.replicate n ' ' ++ itemChars is

/-- Is the line empty or a comment, or one of good items that begin with a token, end before each
  other and close the brackets that they open? -/
def Good : Line → Prop
  | silent cs => cs = [] ∨ ∃ ds, cs = '#' :: ds ∧ '\n' ∉ ds
  | written _ is => begins is = true ∧ (∀ i ∈ is, i.Good) ∧ joints '\n' is = true ∧
    (lexemes is).foldlM nest [] = some []

instance decidableGood : (l : Line) → Decidable l.Good
  | silent [] => .isTrue (Or.inl rfl)
  | silent (c :: ds) => decidable_of_iff (c = '#' ∧ '\n' ∉ ds) (by simp [Good, and_assoc])
  | written _ is => inferInstanceAs (Decidable (begins is = true ∧ (∀ i ∈ is, i.Good) ∧ joints '\n' is = true ∧
      (lexemes is).foldlM nest [] = some []))

/-- The steps in which a line is read. -/
def cost : Line → Nat
  | silent _ => 1
  | written _ is => is.length + 2

end Line

/-- The tokens of a line that begins a block, goes on with one or ends some. -/
def afterLine (st : State) : Line → Option State
  | .silent _ => some { st with line := st.line + 1 }
  | .written n is => (st.margin n n).map fun st =>
    { st with tokens := ⟨.lineEnd, lineAfter st.line (lexemes is)⟩ :: ((tokensAt st.line (lexemes is)).reverse ++ st.tokens),
              line := lineAfter st.line (lexemes is) + 1 }

theorem margin_blanks {c : Char} (hc : startsToken c = true) (n : Nat) (m : Lexer.Margin) (cs : List Char) :
    margin m (List.replicate n ' ' ++ c :: cs) =
      some ({ m with column := m.column + n, plain := m.plain + n }, c :: cs) := by
  induction n generalizing m with
  | zero =>
    simp only [startsToken, Bool.not_eq_true', List.contains_eq_mem, decide_eq_false_iff_not, List.mem_cons,
      List.not_mem_nil, or_false, not_or] at hc
    obtain ⟨h1, h2, h3, -, -, h6⟩ := hc
    simp [margin, h1, h2, h3, h6]
  | succ n ih =>
    rw [List.replicate_succ, List.cons_append, margin, ih]
    simp only [Nat.add_assoc, Nat.add_comm 1 n]

theorem brackets_margin {st st' : State} {n p : Nat} (h : st.margin n p = some st') : st'.brackets = st.brackets := by
  have hd : ∀ (k : Nat) (u : State), (k.repeat (fun u : State => u.push .dedent) u).brackets = u.brackets := by
    intro k
    induction k with
    | zero => intro u; rfl
    | succ k ih => intro u; rw [Nat.repeat]; exact ih u
  simp only [State.margin] at h
  split at h
  · split at h
    · cases h
    · obtain rfl := Option.some.inj h
      rfl
  · obtain ⟨⟨margins, k⟩, -, rfl⟩ := Option.map_eq_some_iff.mp h
    exact hd k _

/-- A line of items is read from its margin on. -/
theorem readLine_items {st st' : State} {n : Nat} {c : Char} (hc : startsToken c = true) (hb : st.brackets = [])
    (hm : st.margin n n = some st') (fuel : Nat) (cs : List Char) :
    readLine (fuel + 1) st (List.replicate n ' ' ++ c :: cs) = readTokens fuel st' (c :: cs) := by
  have hc' := hc
  simp only [startsToken, Bool.not_eq_true', List.contains_eq_mem, decide_eq_false_iff_not, List.mem_cons,
    List.not_mem_nil, or_false, not_or] at hc'
  obtain ⟨-, -, -, h4, h5, -⟩ := hc'
  obtain ⟨line, margins, brackets, tokens⟩ := st
  obtain rfl : brackets = [] := hb
  simp [readLine, margin_blanks hc, h4, h5, hm]

/-- The end of a line outside of brackets. -/
theorem readTokens_lineEnd {st : State} (hb : st.brackets = []) (fuel : Nat) (rest : List Char) :
    readTokens (fuel + 1) st ('\n' :: rest) =
      readLine fuel { st with tokens := ⟨.lineEnd, st.line⟩ :: st.tokens, line := st.line + 1 } rest := by
  simp [readTokens, hb, State.push]

/-- A line is read as its tokens. -/
theorem readLine_line {l : Line} (hg : l.Good) {st st' : State} (hb : st.brackets = [])
    (ha : afterLine st l = some st') (fuel : Nat) (rest : List Char) :
    readLine (fuel + l.cost) st (l.chars ++ '\n' :: rest) = readLine fuel st' rest ∧ st'.brackets = [] := by
  cases l with
  | silent cs =>
    obtain rfl := Option.some.inj ha
    refine ⟨?_, hb⟩
    rcases hg with rfl | ⟨ds, rfl, hd⟩
    · simp [Line.cost, Line.chars, readLine, margin]
    · have hc : Lexer.afterComment (ds ++ '\n' :: rest) = '\n' :: rest := by
        rw [Lexer.afterComment, List.dropWhile_append_of_pos (by
          intro c hm; simpa using fun h : c = '\n' => hd (h ▸ hm))]
        simp
      simp [Line.cost, Line.chars, readLine, margin, hc]
  | written n is =>
    obtain ⟨hbegins, hgood, hj, hn⟩ := hg
    obtain ⟨u, hm, rfl⟩ := Option.map_eq_some_iff.mp ha
    have hu : u.brackets = [] := (brackets_margin hm).trans hb
    refine ⟨?_, hu⟩
    obtain ⟨c, cs, hc, hs⟩ := head_items hbegins hgood ('\n' :: rest)
    have hl := readLine_items hs hb hm (fuel + 1 + is.length) cs
    rw [← hc, readTokens_items is hgood hj (by rw [hu]; exact hn), readTokens_lineEnd rfl] at hl
    rw [Line.chars, Line.cost, List.append_assoc, hu, show fuel + (is.length + 2) = fuel + 1 + is.length + 1 by omega]
    exact hl

/-! ## Tokens of a text -/

/-- The characters of lines. -/
def sourceChars (ls : List Line) : List Char := lineChars (ls.map Line.chars)

-- An empty sum is the numeral, whatever else is imported.
attribute [local instance (high)] Zero.ofOfNat0

/-- The steps in which lines are read. -/
def totalCost (ls : List Line) : Nat := (ls.map Line.cost).sum

theorem sourceChars_cons (l : Line) (ls : List Line) : sourceChars (l :: ls) = l.chars ++ '\n' :: sourceChars ls := by
  simp [sourceChars, lineChars]

theorem sourceChars_append (ls ls' : List Line) : sourceChars (ls ++ ls') = sourceChars ls ++ sourceChars ls' := by
  simp [sourceChars, lineChars]

/-- Lines are read one after the other. -/
theorem readLine_lines (ls : List Line) (hg : ∀ l ∈ ls, l.Good) {st st' : State} (hb : st.brackets = [])
    (ha : ls.foldlM afterLine st = some st') (fuel : Nat) (rest : List Char) :
    readLine (fuel + totalCost ls) st (sourceChars ls ++ rest) = readLine fuel st' rest ∧ st'.brackets = [] := by
  induction ls generalizing st with
  | nil =>
    obtain rfl := Option.some.inj ha
    exact ⟨rfl, hb⟩
  | cons l ls ih =>
    rw [List.foldlM_cons] at ha
    obtain ⟨u, hu, ha⟩ := Option.bind_eq_some_iff.mp ha
    obtain ⟨hl, hbu⟩ := readLine_line (hg l List.mem_cons_self) hb hu (fuel + totalCost ls) (sourceChars ls ++ rest)
    obtain ⟨hr, hb'⟩ := ih (fun k hk => hg k (List.mem_cons_of_mem _ hk)) hbu ha
    refine ⟨?_, hb'⟩
    rw [sourceChars_cons, List.append_assoc, List.cons_append, ← hr, ← hl, totalCost, totalCost, List.map_cons,
      List.sum_cons, Nat.add_comm l.cost, Nat.add_assoc]

/-- Reading takes at most two steps for each character. -/
theorem length_le_itemChars {is : List Item} (hg : ∀ i ∈ is, i.Good) : is.length ≤ (itemChars is).length := by
  induction is with
  | nil => simp
  | cons i is ih =>
    have hi := List.length_pos_iff.mpr (chars_ne_nil (hg i List.mem_cons_self))
    have := ih fun j hj => hg j (List.mem_cons_of_mem _ hj)
    simp only [itemChars_cons, List.length_cons, List.length_append]
    omega

theorem totalCost_le {ls : List Line} (hg : ∀ l ∈ ls, l.Good) : totalCost ls ≤ 2 * (sourceChars ls).length := by
  induction ls with
  | nil => simp [totalCost]
  | cons l ls ih =>
    have := ih fun k hk => hg k (List.mem_cons_of_mem _ hk)
    have hl : l.cost ≤ 2 * (l.chars.length + 1) := by
      cases l with
      | silent cs => simp only [Line.cost]; omega
      | written n is =>
        have := length_le_itemChars (hg _ List.mem_cons_self).2.1
        simp only [Line.cost, Line.chars, List.length_append]
        omega
    simp only [totalCost, List.map_cons, List.sum_cons, sourceChars_cons, List.length_append, List.length_cons] at this ⊢
    omega

theorem getLast?_sourceChars {ls : List Line} (hne : ls ≠ []) : (sourceChars ls).getLast? = some '\n' := by
  obtain ⟨ks, l, rfl⟩ := List.eq_nil_or_concat ls |>.resolve_left hne
  simp [sourceChars, lineChars]

/-- The tokens of lines. -/
theorem tokens?_lines {ls : List Line} (hg : ∀ l ∈ ls, l.Good) (hne : ls ≠ []) (hr : '\r' ∉ sourceChars ls)
    {st : State} (ha : ls.foldlM afterLine {} = some st) : Lexer.tokens? (sourceChars ls) = st.close := by
  have hc := totalCost_le hg
  obtain ⟨k, hk⟩ : ∃ k, 2 * (sourceChars ls).length + 2 = k + 1 + totalCost ls :=
    ⟨2 * (sourceChars ls).length + 1 - totalCost ls, by omega⟩
  obtain ⟨hl, -⟩ := readLine_lines ls hg rfl ha (k + 1) []
  rw [List.append_nil] at hl
  rw [Lexer.tokens?, Text.normalNewlines_eq_self hr, getLast?_sourceChars hne]
  simp only [BEq.rfl, if_true, hk, hl]
  simp [readLine, margin]

/-- Where an item after good ones is not read, the text has no tokens. -/
theorem tokens?_stuck {ls : List Line} {n : Nat} {is : List Item} {c : Char} {cs rest : List Char}
    (he : cs = sourceChars ls ++ (List.replicate n ' ' ++ (itemChars is ++ c :: rest)))
    (hr : '\r' ∉ cs) (hl : cs.getLast? = some '\n') (hg : ∀ l ∈ ls, l.Good) {st st' : State}
    (ha : ls.foldlM afterLine {} = some st) (hm : st.margin n n = some st') (hb : begins is = true)
    (hi : ∀ i ∈ is, i.Good) (hj : joints c is = true) {bs : List String} (hn : (lexemes is).foldlM nest [] = some bs)
    (hc : startsToken c = true) (ht : token (c :: rest) = none) : Lexer.tokens? cs = none := by
  have hcost := totalCost_le hg
  have hlen := length_le_itemChars hi
  obtain ⟨k, hk⟩ : ∃ k, 2 * cs.length + 2 = k + is.length + 1 + totalCost ls := by
    refine ⟨2 * cs.length + 1 - is.length - totalCost ls, ?_⟩
    rw [he]
    simp only [List.length_append]
    omega
  obtain ⟨hlines, hopen⟩ := readLine_lines ls hg rfl ha (k + is.length + 1)
    (List.replicate n ' ' ++ (itemChars is ++ c :: rest))
  obtain ⟨d, ds, hd, hs⟩ := head_items hb hi (c :: rest)
  have hmargin := readLine_items hs hopen hm (k + is.length) ds
  have hst : st'.brackets = [] := (brackets_margin hm).trans hopen
  rw [← hd, readTokens_items is hi hj (by rw [hst]; exact hn), readTokens_stuck hc ht] at hmargin
  rw [Lexer.tokens?, Text.normalNewlines_eq_self hr, hl]
  simp only [BEq.rfl, if_true, hk]
  rw [he, hlines, hmargin]

end CrudQueries.Source
