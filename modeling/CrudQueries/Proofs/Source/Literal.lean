/-
  CrudQueries.Proofs.Source.Literal — what a quoted text is read as.

  `Text.Quoted.quote` writes a text between double quotes and `Text.Quoted.literalBraces` doubles
  its braces. Read as source, the one gives the text back (`shortBody_escape`, `decode?_escape`),
  and the other is literal text of a formatted literal. A formatted literal is written from parts
  (`Part`), each of them literal text or the name of a constant; its fields are then exactly those
  names, in order (`fields?_written`), and it stands for the text of the parts with each name
  replaced by what it is bound to (`formattedValue_written`).
-/

import CrudQueries.Proofs.Text.Quoted
import CrudQueries.Source.Lexer
import CrudQueries.Source.Literal

namespace CrudQueries.Source

open CrudQueries.Text.Quoted (escape escape_cons escape_append doubleBraces doubleBraces_cons)

/-! ## Between quotes -/

namespace Lexer

/-- A text that is escaped and holds no newline ends at the quote that follows it. -/
theorem shortBody_escape {cs : List Char} (h : '\n' ∉ cs) (read rest : List Char) :
    shortBody '"' read (escape cs ++ '"' :: rest) = some ((escape cs).reverse ++ read, rest) := by
  induction cs generalizing read with
  | nil => simp [escape, shortBody]
  | cons c cs ih =>
    simp only [List.mem_cons, not_or] at h
    rw [escape_cons]
    by_cases hc : c = '\\' ∨ c = '"'
    · simp only [if_pos hc, List.cons_append, List.nil_append, shortBody]
      rw [ih h.2]
      simp
    · simp only [not_or] at hc
      simp [shortBody, hc.1, hc.2, Ne.symm h.1, ih h.2]

/-- A quoted text is one literal. Only two quotes with a third one after them would be read otherwise. -/
theorem literalBody_quoted {cs : List Char} (h : '\n' ∉ cs) (rest : List Char) (hr : rest.head? ≠ some '"') :
    literalBody '"' ('"' :: (escape cs ++ '"' :: rest)) = some (escape cs, rest) := by
  have hs := shortBody_escape h [] rest
  cases cs with
  | nil =>
    cases rest with
    | nil => simp [literalBody, escape, shortBody]
    | cons d rest =>
      simp only [List.head?_cons, ne_eq, Option.some.injEq] at hr
      simp [literalBody, escape, shortBody, hr]
  | cons c cs =>
    rw [escape_cons] at hs ⊢
    by_cases hc : c = '\\' ∨ c = '"'
    · simp only [if_pos hc, List.cons_append, List.nil_append] at hs ⊢
      simp [literalBody, hs]
    · simp only [if_neg hc, List.cons_append, List.nil_append, not_or] at hs hc ⊢
      obtain ⟨d, ds, hd⟩ : ∃ d ds, escape cs ++ '"' :: rest = d :: ds :=
        List.exists_cons_of_ne_nil (by simp)
      rw [hd] at hs ⊢
      simp [literalBody, hc.2, hs]

/-- A newline inside of single quotes leaves the literal open. -/
theorem shortBody_newline {cs : List Char} (hb : '\\' ∉ cs) (hq : '"' ∉ cs) (read rest : List Char) :
    shortBody '"' read (cs ++ '\n' :: rest) = none := by
  induction cs generalizing read with
  | nil => simp [shortBody]
  | cons c cs ih =>
    simp only [List.mem_cons, not_or] at hb hq
    by_cases hn : c = '\n'
    · simp [shortBody, hn]
    · simp [shortBody, Ne.symm hb.1, Ne.symm hq.1, hn, ih hb.2 hq.2]

end Lexer

namespace Literal

/-! ## Escapes -/

theorem decodeFrom_escape {cs : List Char} (fuel : Nat) (read : List Char) (h : (escape cs).length < fuel) :
    decodeFrom fuel read (escape cs) = some (read.reverse ++ cs) := by
  induction cs generalizing fuel read with
  | nil =>
    obtain ⟨fuel, rfl⟩ : ∃ n, fuel = n + 1 := ⟨fuel - 1, by omega⟩
    simp [escape, decodeFrom]
  | cons c cs ih =>
    obtain ⟨fuel, rfl⟩ : ∃ n, fuel = n + 1 := ⟨fuel - 1, by omega⟩
    rw [escape_cons] at h ⊢
    by_cases hc : c = '\\' ∨ c = '"'
    · have he : escape? (c :: escape cs) = some ([c], escape cs) := by
        rcases hc with rfl | rfl <;> simp [escape?, simpleEscape?]
      simp only [if_pos hc, List.cons_append, List.nil_append, List.length_cons] at h ⊢
      simp only [decodeFrom, he, Option.bind_eq_bind, Option.bind_some]
      rw [ih _ _ (by omega)]
      simp
    · simp only [if_neg hc, not_or, List.cons_append, List.nil_append, List.length_cons] at h hc ⊢
      have hd : decodeFrom (fuel + 1) read (c :: escape cs) = decodeFrom fuel (c :: read) (escape cs) := by
        simp [decodeFrom, hc.1]
      rw [hd, ih _ _ (by omega)]
      simp

/-- An escaped text stands for the text. -/
theorem decode?_escape (cs : List Char) : decode? false (escape cs) = some cs := by
  simpa [decode?] using decodeFrom_escape ((escape cs).length + 1) [] (by omega)

/-! ## Parts of formatted literals -/

/-- A part of a formatted literal: literal text, or a field that names a constant. -/
inductive Part where
  | text (cs : List Char)
  | field (name : List Char)

/-- How a part stands in the body of the literal. -/
def Part.written : Part → List Char
  | .text cs => escape (doubleBraces cs)
  | .field name => '{' :: (name ++ ['}'])

/-- The body of the literal. -/
def written (ps : List Part) : List Char := ps.flatMap Part.written

/-- The names in the fields. -/
def fieldNames : List Part → List (List Char)
  | [] => []
  | .text _ :: ps => fieldNames ps
  | .field name :: ps => name :: fieldNames ps

/-- The literal text before the first field, and the parts from that field on. -/
def leading : List Part → List Char × List Part
  | .text cs :: ps => (cs ++ (leading ps).1, (leading ps).2)
  | ps => ([], ps)

/-- May `c` stand in a name with dots? -/
def isPlainCode (c : Char) : Bool := Text.isNameChar c || c == '.'

theorem ne_of_isPlainCode {c d : Char} (hc : isPlainCode c = true) (hd : isPlainCode d = false) : c ≠ d := by
  rintro rfl; rw [hc] at hd; cases hd

/-- Does every field hold a name, with dots or without? -/
def arePlain (ps : List Part) : Prop := ∀ name ∈ fieldNames ps, name ≠ [] ∧ ∀ c ∈ name, isPlainCode c = true

theorem arePlain_leading {ps : List Part} (h : arePlain ps) : arePlain (leading ps).2 := by
  induction ps with
  | nil => exact h
  | cons p ps ih =>
    cases p with
    | text cs => exact ih h
    | field name => exact h

/-- After the leading text there is nothing more, or a field. -/
theorem leading_cases (ps : List Part) :
    (leading ps).2 = [] ∨ ∃ name qs, (leading ps).2 = .field name :: qs := by
  induction ps with
  | nil => exact Or.inl rfl
  | cons p ps ih =>
    cases p with
    | text cs => exact ih
    | field name => exact Or.inr ⟨name, ps, rfl⟩

theorem fieldNames_leading (ps : List Part) : fieldNames (leading ps).2 = fieldNames ps := by
  induction ps with
  | nil => rfl
  | cons p ps ih =>
    cases p with
    | text cs => exact ih
    | field name => rfl

/-! ## Literal text -/

theorem length_le_escape (cs : List Char) : cs.length ≤ (escape cs).length := by
  induction cs with
  | nil => simp
  | cons c cs ih => rw [escape_cons]; split <;> simp <;> omega

theorem length_le_doubleBraces (cs : List Char) : cs.length ≤ (doubleBraces cs).length := by
  induction cs with
  | nil => simp
  | cons c cs ih => rw [doubleBraces_cons]; split <;> simp <;> omega

/-- Literal text is read one character after the other, a doubled brace as one. -/
theorem plainText_append (cs : List Char) (n : Nat) (read rest : List Char) :
    plainText (n + cs.length) false false read (escape (doubleBraces cs) ++ rest) =
      plainText n false false ((escape cs).reverse ++ read) rest := by
  induction cs generalizing read with
  | nil => simp [escape, doubleBraces]
  | cons c cs ih =>
    rw [doubleBraces_cons, escape_append, escape_cons c cs, List.length_cons, ← Nat.add_assoc]
    -- A brace is doubled but not escaped, so the two ways to be two characters exclude each other.
    by_cases hb : c = '{' ∨ c = '}'
    · have hq : ¬ (c = '\\' ∨ c = '"') := by rintro (rfl | rfl) <;> simp at hb
      have he : escape [c, c] = [c, c] := by simp [escape_cons, hq, escape]
      have hn : c ≠ '\\' := fun h => hq (Or.inl h)
      simp only [if_pos hb, if_neg hq, he, List.cons_append, List.nil_append, plainText]
      rcases hb with rfl | rfl <;> simp [braceAt, ih]
    · simp only [if_neg hb]
      by_cases hq : c = '\\' ∨ c = '"'
      · have he : escape [c] = ['\\', c] := by simp [escape_cons, hq, escape]
        simp only [if_pos hq, he, List.cons_append, List.nil_append]
        rcases hq with rfl | rfl <;> simp [plainText, ih]
      · have he : escape [c] = [c] := by simp [escape_cons, hq, escape]
        simp only [not_or] at hb hq
        simp [hq, he, plainText, hb, ih]

/-- The literal text before the first field is read up to that field. -/
theorem plainText_written {ps : List Part} (h : arePlain ps) (fuel : Nat) (hf : (written ps).length < fuel)
    (read : List Char) : plainText fuel false false read (written ps) =
      some ((escape (leading ps).1).reverse ++ read, written (leading ps).2) := by
  induction ps generalizing fuel read with
  | nil =>
    obtain ⟨fuel, rfl⟩ : ∃ n, fuel = n + 1 := ⟨fuel - 1, by omega⟩
    simp [written, leading, plainText, escape]
  | cons p ps ih =>
    cases p with
    | text cs =>
      have hw : written (.text cs :: ps) = escape (doubleBraces cs) ++ written ps := by simp [written, Part.written]
      have hl := length_le_escape (doubleBraces cs)
      have hd := length_le_doubleBraces cs
      rw [hw, List.length_append] at hf
      obtain ⟨n, rfl⟩ : ∃ n, fuel = n + cs.length := ⟨fuel - cs.length, by omega⟩
      rw [hw, plainText_append, ih h n (by omega)]
      simp [leading, escape_append]
    | field name =>
      obtain ⟨fuel, rfl⟩ : ∃ n, fuel = n + 1 := ⟨fuel - 1, by omega⟩
      obtain ⟨hne, hc⟩ := h name (by simp [fieldNames])
      obtain ⟨d, ds, rfl⟩ := List.exists_cons_of_ne_nil hne
      have hd : d ≠ '{' := ne_of_isPlainCode (hc d (by simp)) (by decide)
      simp [written, Part.written, leading, plainText, braceAt, Ne.symm hd, escape]

/-! ## Fields -/

/-- A name is read up to the brace that closes its field. -/
theorem fieldExpression_name {name : List Char} (h : ∀ c ∈ name, isPlainCode c = true) (fuel : Nat)
    (hf : name.length < fuel) (read rest : List Char) :
    fieldExpression fuel .code [] read (name ++ '}' :: rest) = some (name.reverse ++ read, '}' :: rest) := by
  induction name generalizing fuel read with
  | nil =>
    obtain ⟨fuel, rfl⟩ : ∃ n, fuel = n + 1 := ⟨fuel - 1, by omega⟩
    simp [fieldExpression]
  | cons c name ih =>
    obtain ⟨fuel, rfl⟩ : ∃ n, fuel = n + 1 := ⟨fuel - 1, by omega⟩
    have hc := fun d hd => ne_of_isPlainCode (h c (by simp)) (d := d) hd
    have := ih (fun d hd => h d (List.mem_cons_of_mem _ hd)) fuel (by simpa using hf) (c :: read)
    simp [fieldExpression, hc '\\' (by decide), hc '\'' (by decide), hc '"' (by decide), hc '(' (by decide),
      hc '[' (by decide), hc '{' (by decide), hc '#' (by decide), hc '=' (by decide), hc '!' (by decide),
      hc '<' (by decide), hc '>' (by decide), hc ':' (by decide), hc '}' (by decide), hc ')' (by decide),
      hc ']' (by decide), this]

theorem written_field (name : List Char) (ps : List Part) :
    written (.field name :: ps) = '{' :: (name ++ '}' :: written ps) := by
  simp [written, Part.written]

theorem not_all_blank {name : List Char} (hne : name ≠ []) (h : ∀ c ∈ name, isPlainCode c = true) :
    name.all isFieldBlank = false := by
  obtain ⟨c, name, rfl⟩ := List.exists_cons_of_ne_nil hne
  have hc := fun d hd => ne_of_isPlainCode (h c (by simp)) (d := d) hd
  simp [isFieldBlank, hc ' ' (by decide), hc '\t' (by decide), hc '\n' (by decide), hc '\x0c' (by decide)]

theorem length_fieldNames (ps : List Part) : (fieldNames ps).length ≤ (written ps).length := by
  induction ps with
  | nil => simp [fieldNames]
  | cons p ps ih =>
    cases p with
    | text cs => simp [fieldNames, written] at ih ⊢; omega
    | field name => rw [written_field]; simp [fieldNames]; omega

/-- A formatted literal without fields is literal text. -/
theorem plainText_all {ps : List Part} (h : arePlain ps) (he : (leading ps).2 = []) :
    plainText ((written ps).length + 1) false false [] (written ps) = some ((escape (leading ps).1).reverse, []) := by
  simpa [he, written] using plainText_written h ((written ps).length + 1) (by omega) []

/-- The literal text before a field, the name in that field, and the parts after it. -/
theorem plainText_field {ps qs : List Part} {name : List Char} (h : arePlain ps)
    (he : (leading ps).2 = .field name :: qs) :
    plainText ((written ps).length + 1) false false [] (written ps) =
        some ((escape (leading ps).1).reverse, '{' :: (name ++ '}' :: written qs)) ∧
      fieldExpression (name.length + ((written qs).length + 1) + 1) .code [] [] (name ++ '}' :: written qs) =
        some (name.reverse, '}' :: written qs) ∧
      name.all isFieldBlank = false ∧ arePlain qs := by
  have hp := arePlain_leading h
  rw [he] at hp
  obtain ⟨hne, hc⟩ := hp name (by simp [fieldNames])
  refine ⟨?_, ?_, not_all_blank hne hc, fun m hm => hp m (by simp [fieldNames, hm])⟩
  · simpa [he, written_field] using plainText_written h ((written ps).length + 1) (by omega) []
  · simpa using fieldExpression_name hc (name.length + ((written qs).length + 1) + 1) (by omega) [] (written qs)

theorem fieldsFrom_written (n : Nat) : ∀ (ps : List Part) (fuel : Nat), (fieldNames ps).length ≤ n → arePlain ps →
    n < fuel → fieldsFrom fuel 0 false (written ps) = some (fieldNames ps, []) := by
  -- Each step reads one field, so the induction is on their number.
  induction n with
  | zero =>
    intro ps fuel hn hp hf
    obtain ⟨fuel, rfl⟩ : ∃ n, fuel = n + 1 := ⟨fuel - 1, by omega⟩
    have hnames := fieldNames_leading ps
    rcases leading_cases ps with he | ⟨name, qs, he⟩
    · rw [he] at hnames
      simp [fieldsFrom, plainText_all hp he, decode?_escape, ← hnames, fieldNames]
    · rw [he] at hnames; simp [← hnames, fieldNames] at hn
  | succ n ih =>
    intro ps fuel hn hp hf
    obtain ⟨fuel, rfl⟩ : ∃ n, fuel = n + 1 := ⟨fuel - 1, by omega⟩
    have hnames := fieldNames_leading ps
    rcases leading_cases ps with he | ⟨name, qs, he⟩
    · rw [he] at hnames
      simp [fieldsFrom, plainText_all hp he, decode?_escape, ← hnames, fieldNames]
    · obtain ⟨hplain, hx, hb, hq⟩ := plainText_field hp he
      rw [he] at hnames
      simp only [← hnames, fieldNames, List.length_cons] at hn
      have := ih qs fuel (by omega) hq (by omega)
      simp [fieldsFrom, hplain, decode?_escape, hx, hb, afterEquals, afterConversion?, this, ← hnames, fieldNames,
        -List.all_eq_true]

/-- The fields of a formatted literal are the names in its parts. -/
theorem fields?_written {ps : List Part} (h : arePlain ps) : fields? false (written ps) = some (fieldNames ps) := by
  have hl := length_fieldNames ps
  simp [fields?, fieldsFrom_written _ ps ((written ps).length + 1) hl h (by omega)]

/-! ## Values -/

/-- The characters that a formatted literal stands for, when its fields hold names of constants and
  nothing else. -/
def formattedValue (constants : List (String × List Char)) (fuel : Nat) (isRaw : Bool) (cs : List Char) :
    Option (List Char) :=
  match fuel with
  | 0 => none
  | fuel + 1 => do
    let (plain, rest) ← plainText (cs.length + 1) isRaw false [] cs
    let text ← decode? isRaw plain.reverse
    match rest with
    | [] => some text
    | '{' :: rest => do
      let (expression, rest) ← fieldExpression (rest.length + 1) .code [] [] rest
      let value ← constants.lookup (String.ofList expression.reverse)
      match rest with
      | '}' :: rest => do
        let more ← formattedValue constants fuel isRaw rest
        some (text ++ value ++ more)
      | _ => none
    | _ => none

/-- The characters that a literal stands for where `constants` are defined; bytes are no text. -/
def value? (constants : List (String × List Char)) (l : Literal) : Option (List Char) :=
  if l.isBytes then none
  else if l.isFormatted then formattedValue constants (l.body.length + 1) l.isRaw l.body
  else decode? l.isRaw l.body

/-- What a part stands for. -/
def Part.meant (constants : List (String × List Char)) : Part → List Char
  | .text cs => cs
  | .field name => (constants.lookup (String.ofList name)).getD []

theorem meant_leading (constants : List (String × List Char)) (ps : List Part) :
    ps.flatMap (Part.meant constants) = (leading ps).1 ++ (leading ps).2.flatMap (Part.meant constants) := by
  induction ps with
  | nil => rfl
  | cons p ps ih =>
    cases p with
    | text cs => simp [leading, Part.meant, ih]
    | field name => simp [leading]

theorem formattedValue_from (constants : List (String × List Char)) (n : Nat) : ∀ (ps : List Part) (fuel : Nat),
    (fieldNames ps).length ≤ n → arePlain ps → (∀ name ∈ fieldNames ps, (constants.lookup (String.ofList name)).isSome) →
    n < fuel → formattedValue constants fuel false (written ps) = some (ps.flatMap (Part.meant constants)) := by
  induction n with
  | zero =>
    intro ps fuel hn hp _ hf
    obtain ⟨fuel, rfl⟩ : ∃ n, fuel = n + 1 := ⟨fuel - 1, by omega⟩
    have hnames := fieldNames_leading ps
    rcases leading_cases ps with he | ⟨name, qs, he⟩
    · simp [formattedValue, plainText_all hp he, decode?_escape, meant_leading constants ps, he]
    · rw [he] at hnames; simp [← hnames, fieldNames] at hn
  | succ n ih =>
    intro ps fuel hn hp hb hf
    obtain ⟨fuel, rfl⟩ : ∃ n, fuel = n + 1 := ⟨fuel - 1, by omega⟩
    have hnames := fieldNames_leading ps
    rcases leading_cases ps with he | ⟨name, qs, he⟩
    · simp [formattedValue, plainText_all hp he, decode?_escape, meant_leading constants ps, he]
    · obtain ⟨hplain, hx, -, hq⟩ := plainText_field hp he
      rw [he] at hnames
      simp only [← hnames, fieldNames, List.length_cons] at hn
      obtain ⟨v, hv⟩ := Option.isSome_iff_exists.mp (hb name (by simp [← hnames, fieldNames]))
      have := ih qs fuel (by omega) hq (fun m hm => hb m (by simp [← hnames, fieldNames, hm])) (by omega)
      simp [formattedValue, hplain, decode?_escape, hx, hv, this, meant_leading constants ps, he, Part.meant]

/-- A formatted literal stands for its text with each name replaced by what it is bound to. -/
theorem formattedValue_written {constants : List (String × List Char)} {ps : List Part} (h : arePlain ps)
    (hb : ∀ name ∈ fieldNames ps, (constants.lookup (String.ofList name)).isSome) :
    formattedValue constants ((written ps).length + 1) false (written ps) =
      some (ps.flatMap (Part.meant constants)) := by
  have hl := length_fieldNames ps
  exact formattedValue_from constants _ ps _ hl h hb (by omega)

end Literal

end CrudQueries.Source
