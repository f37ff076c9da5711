/-
  CrudQueries.Proofs.Text.Quoted — what escaping and doubling braces keep.

  Both work character by character and only ever add a backslash or a brace that is there
  already, so a text without a certain character stays one (`mem_escape`, `mem_doubleBraces`),
  and a text without the characters they look for is not changed (`escape_eq_self`,
  `doubleBraces_eq_self`).
-/

import CrudQueries.Text.Quoted

namespace CrudQueries.Text.Quoted

/-! ## Escaping -/

theorem escape_cons (c : Char) (cs : List Char) :
    escape (c :: cs) = (if c = '\\' ∨ c = '"' then ['\\', c] else [c]) ++ escape cs := by
  by_cases h1 : c = '\\'
  · subst h1; simp [escape]
  by_cases h2 : c = '"'
  · subst h2; simp [escape]
  · simp [escape, h1, h2]

theorem escape_append (cs ds : List Char) : escape (cs ++ ds) = escape cs ++ escape ds := by
  induction cs with
  | nil => rfl
  | cons c cs ih => rw [List.cons_append, escape_cons, escape_cons, ih, List.append_assoc]

/-- Escaping adds backslashes only. -/
theorem mem_escape {c : Char} {cs : List Char} (h : c ∈ escape cs) : c ∈ cs ∨ c = '\\' := by
  induction cs with
  | nil => simp [escape] at h
  | cons d cs ih =>
    rw [escape_cons] at h
    rcases List.mem_append.mp h with h | h
    · split at h <;> simp at h
      · rcases h with h | h
        · exact Or.inr h
        · exact Or.inl (by simp [h])
      · exact Or.inl (by simp [h])
    · rcases ih h with h | h
      · exact Or.inl (List.mem_cons_of_mem _ h)
      · exact Or.inr h

theorem escape_eq_self {cs : List Char} (hb : '\\' ∉ cs) (hq : '"' ∉ cs) : escape cs = cs := by
  induction cs with
  | nil => rfl
  | cons c cs ih =>
    simp only [List.mem_cons, not_or] at hb hq
    simp [escape_cons, Ne.symm hb.1, Ne.symm hq.1, ih hb.2 hq.2]

@[simp] theorem toList_quote (s : String) : (quote s).toList = '"' :: (escape s.toList ++ ['"']) := by
  simp [quote]

/-! ## Braces -/

theorem doubleBraces_cons (c : Char) (cs : List Char) :
    doubleBraces (c :: cs) = (if c = '{' ∨ c = '}' then [c, c] else [c]) ++ doubleBraces cs := by
  by_cases h1 : c = '{'
  · subst h1; simp [doubleBraces]
  by_cases h2 : c = '}'
  · subst h2; simp [doubleBraces]
  · simp [doubleBraces, h1, h2]

/-- Doubling adds no other character. -/
theorem mem_doubleBraces {c : Char} {cs : List Char} (h : c ∈ doubleBraces cs) : c ∈ cs := by
  induction cs with
  | nil => simp [doubleBraces] at h
  | cons d cs ih =>
    rw [doubleBraces_cons] at h
    rcases List.mem_append.mp h with h | h
    · split at h <;> simp at h <;> simp [h]
    · exact List.mem_cons_of_mem _ (ih h)

theorem doubleBraces_eq_self {cs : List Char} (ho : '{' ∉ cs) (hc : '}' ∉ cs) : doubleBraces cs = cs := by
  induction cs with
  | nil => rfl
  | cons c cs ih =>
    simp only [List.mem_cons, not_or] at ho hc
    simp [doubleBraces_cons, Ne.symm ho.1, Ne.symm hc.1, ih ho.2 hc.2]

@[simp] theorem toList_literalBraces (s : String) : (literalBraces s).toList = doubleBraces s.toList := by
  simp [literalBraces]

@[simp] theorem toList_placeholder (name : String) : (placeholder name).toList = '{' :: (name.toList ++ ['}']) := by
  simp [placeholder]

end CrudQueries.Text.Quoted
