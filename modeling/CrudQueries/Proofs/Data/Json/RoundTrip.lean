/-
  CrudQueries.Proofs.Data.Json.RoundTrip — what is read of a written value.

  A value of texts, numbers, truth values and nothing, in lists and in maps whose keys are different texts
  (`Plain`), is read back from its text in any layout, unless it holds a number of too many digits: then the
  first of these is what the reader stops at (`read_write`). Every item and every entry ends where the text
  after it begins (`Closes`), and blanks are all that a layout adds (`separator_eq`), so the induction is on
  the value, one lemma for what stands between brackets and one for what stands between braces.
-/

import CrudQueries.Proofs.Data.Json.Leaves
import CrudQueries.Proofs.Data.Mapping

namespace CrudQueries.Data.Json

open CrudQueries.Data.Value (Apart)
open CrudQueries.Text (isDigit)

variable {fuel depth : Nat} {c : Char} {bs cs rest : List Char}

/-! ## Values -/

mutual

/-- A value that JSON can say: maps have texts for keys, and each once. -/
def Plain : Value → Prop
  | .null | .bool _ | .int _ | .text _ => True
  | .list items => PlainItems items
  | .map entries => Apart entries ∧ PlainEntries entries
  | _ => False

def PlainItems : List Value → Prop
  | [] => True
  | v :: rest => Plain v ∧ PlainItems rest

def PlainEntries : List (Value × Value) → Prop
  | [] => True
  | (k, v) :: rest => (∃ s, k = .text s) ∧ Plain v ∧ PlainEntries rest

end

theorem plainItems_iff {items : List Value} : PlainItems items ↔ ∀ v ∈ items, Plain v := by
  induction items with
  | nil => simp [PlainItems]
  | cons v items ih => rw [PlainItems, ih, List.forall_mem_cons]

theorem plainEntries_iff {entries : List (Value × Value)} :
    PlainEntries entries ↔ (∀ e ∈ entries, ∃ s, e.1 = .text s) ∧ ∀ e ∈ entries, Plain e.2 := by
  induction entries with
  | nil => simp [PlainEntries]
  | cons e entries ih =>
    obtain ⟨k, v⟩ := e
    rw [PlainEntries, ih, List.forall_mem_cons, List.forall_mem_cons]
    constructor
    · rintro ⟨hk, hv, hks, hvs⟩
      exact ⟨⟨hk, hks⟩, hv, hvs⟩
    · rintro ⟨⟨hk, hks⟩, hv, hvs⟩
      exact ⟨hk, hv, hks, hvs⟩

mutual

/-- The digits of the first number in a value that has too many of them. -/
def firstLong? : Value → Option Nat
  | .int n => longDigits? n
  | .list items => firstLongOfItems? items
  | .map entries => firstLongOfEntries? entries
  | _ => none

def firstLongOfItems? : List Value → Option Nat
  | [] => none
  | v :: rest => (firstLong? v).or (firstLongOfItems? rest)

def firstLongOfEntries? : List (Value × Value) → Option Nat
  | [] => none
  | (_, v) :: rest => (firstLong? v).or (firstLongOfEntries? rest)

end

/-! ## Layout -/

/-- Nothing but blanks. -/
def Blank (cs : List Char) : Prop := ∀ c ∈ cs, isJsonBlank c = true

theorem blank_nil : Blank [] := List.forall_mem_nil _

theorem skipBlanks_append (h : Blank bs) (cs : List Char) : skipBlanks (bs ++ cs) = skipBlanks cs :=
  List.dropWhile_append_of_pos h

theorem skipBlanks_cons (h : isJsonBlank c = false) : skipBlanks (c :: cs) = c :: cs := by
  rw [skipBlanks, List.dropWhile_cons_of_neg (by simp [h])]

theorem blank_lineBreak (layout : Layout) (depth : Nat) : Blank (layout.lineBreak depth) := by
  cases layout with
  | oneLine => exact blank_nil
  | steps spaces =>
    refine List.forall_mem_cons.mpr ⟨by decide, fun c hc => ?_⟩
    rw [List.eq_of_mem_replicate hc]
    decide

/-- Items stand apart by a comma and blanks. -/
theorem separator_eq (layout : Layout) (depth : Nat) : ∃ bs, layout.separator depth = ',' :: bs ∧ Blank bs := by
  cases layout with
  | oneLine => exact ⟨[' '], rfl, List.forall_mem_singleton.mpr (by decide)⟩
  | steps spaces => exact ⟨_, rfl, blank_lineBreak (.steps spaces) depth⟩

/-- No number goes on with blanks, or with what ends an item or an entry. -/
theorem closes_of_blank (h : Blank bs) (hc : c ∈ [',', ']', '}']) : Closes (bs ++ c :: rest) := by
  have hblank : ∀ c, isJsonBlank c = true → isDigit c = false ∧ c ≠ '.' ∧ c ≠ 'e' ∧ c ≠ 'E' := by
    intro c hc
    simp only [isJsonBlank, Bool.or_eq_true, beq_iff_eq] at hc
    rcases hc with ((rfl | rfl) | rfl) | rfl <;> decide
  intro d hd
  cases bs with
  | cons b bs =>
    obtain rfl := Option.some.inj hd
    exact hblank _ (h _ List.mem_cons_self)
  | nil =>
    obtain rfl := Option.some.inj hd
    revert hc
    simp only [List.mem_cons, List.not_mem_nil, or_false]
    rintro (rfl | rfl | rfl) <;> decide

theorem joinPieces_cons (separator piece : List Char) {pieces : List (List Char)} (h : pieces ≠ []) :
    joinPieces separator (piece :: pieces) = piece ++ separator ++ joinPieces separator pieces := by
  obtain ⟨p, ps, rfl⟩ := List.exists_cons_of_ne_nil h
  rfl

/-! ## First characters -/

/-- A value begins with neither a blank nor an end. -/
def Begins (cs : List Char) : Prop := ∃ c rest, cs = c :: rest ∧ isJsonBlank c = false ∧ c ≠ ']' ∧ c ≠ '}'

theorem Begins.append (h : Begins cs) (rest : List Char) : Begins (cs ++ rest) := by
  obtain ⟨c, more, rfl, hc⟩ := h
  exact ⟨c, more ++ rest, rfl, hc⟩

theorem Begins.skipBlanks_eq (h : Begins cs) : skipBlanks cs = cs := by
  obtain ⟨c, rest, rfl, hc, -⟩ := h
  exact skipBlanks_cons hc

/-- A text that begins an item or an entry is what is read after a comma and blanks. -/
theorem Begins.separator (h : Begins cs) (layout : Layout) (depth : Nat) :
    ∃ bs, layout.separator depth ++ cs = [] ++ ',' :: (bs ++ cs) ∧ skipBlanks (bs ++ cs) = cs := by
  obtain ⟨bs, hsep, hbs⟩ := separator_eq layout depth
  refine ⟨bs, by rw [hsep]; rfl, ?_⟩
  rw [skipBlanks_append hbs, h.skipBlanks_eq]

theorem begins_writeText (s : String) : Begins (writeText s) := ⟨_, _, rfl, by decide, by decide, by decide⟩

theorem begins_toString (n : Int) : Begins (toString n).toList := by
  rw [toList_toString]
  by_cases hn : n < 0
  · rw [if_pos hn]
    exact ⟨_, _, rfl, by decide, by decide, by decide⟩
  · obtain ⟨c, cs, hcs⟩ := List.exists_cons_of_ne_nil (Nat.toDigits_ne_nil (n := n.natAbs) (b := 10))
    have hc : isDigit c = true := isDigit_of_mem_toDigits (hcs ▸ List.mem_cons_self)
    rw [if_neg hn, List.nil_append, hcs]
    refine ⟨c, cs, rfl, ?_, ?_, ?_⟩
    · cases hb : isJsonBlank c with
      | false => rfl
      | true =>
        simp only [isJsonBlank, Bool.or_eq_true, beq_iff_eq] at hb
        rcases hb with ((rfl | rfl) | rfl) | rfl <;> exact absurd hc (by decide)
    all_goals
      rintro rfl
      exact absurd hc (by decide)

theorem begins_writeValue (layout : Layout) (depth : Nat) {v : Value} (h : Plain v) : Begins (writeValue layout depth v) := by
  cases v with
  | null => exact ⟨_, _, rfl, by decide, by decide, by decide⟩
  | bool b => cases b <;> exact ⟨_, _, rfl, by decide, by decide, by decide⟩
  | int n => exact begins_toString n
  | text s => exact begins_writeText s
  | list items =>
    rw [writeValue]
    split <;> exact ⟨_, _, rfl, by decide, by decide, by decide⟩
  | map entries =>
    rw [writeValue]
    split <;> exact ⟨_, _, rfl, by decide, by decide, by decide⟩
  | _ => exact h.elim

/-! ## Reading back -/

/-- The text of the value is read back at any depth, with as much fuel as it has characters. -/
def ReadsBack (layout : Layout) (v : Value) : Prop :=
  ∀ ⦃depth fuel : Nat⦄ ⦃rest : List Char⦄, Closes rest → (writeValue layout depth v).length ≤ fuel →
    readValue fuel (writeValue layout depth v ++ rest) = orLong (firstLong? v) (v, rest)

variable {layout : Layout}

/-- The text of items, as it stands between brackets. -/
def itemsText (layout : Layout) (depth : Nat) (items : List Value) : List Char :=
  joinPieces (layout.separator depth) (writeItems layout depth items)

theorem itemsText_cons (layout : Layout) (depth : Nat) (v : Value) {items : List Value} (h : items ≠ []) :
    itemsText layout depth (v :: items) =
      writeValue layout depth v ++ layout.separator depth ++ itemsText layout depth items := by
  obtain ⟨w, more, rfl⟩ := List.exists_cons_of_ne_nil h
  exact joinPieces_cons _ _ (by rw [writeItems]; exact List.cons_ne_nil _ _)

theorem begins_itemsText {v : Value} {items : List Value} (h : Plain v) : Begins (itemsText layout depth (v :: items)) := by
  cases items with
  | nil => exact begins_writeValue layout depth h
  | cons w items =>
    rw [itemsText_cons layout depth v (List.cons_ne_nil w items), List.append_assoc]
    exact (begins_writeValue layout depth h).append _

/-- The last item, before the bracket. -/
theorem readItems_last {v : Value} (hv : ReadsBack layout v) (hb : Blank bs) (read : List Value)
    (hfuel : (writeValue layout depth v).length ≤ fuel) :
    readItems (fuel + 1) (writeValue layout depth v ++ (bs ++ ']' :: rest)) read =
      orLong (firstLong? v) ((v :: read).reverse, rest) := by
  rw [readItems, hv (closes_of_blank hb (by decide)) hfuel]
  cases firstLong? v with
  | some digits => rfl
  | none => simp only [orLong, skipBlanks_append hb, skipBlanks_cons (show isJsonBlank ']' = false by decide)]

/-- An item before a comma, after which others are read. -/
theorem readItems_comma {v : Value} (hv : ReadsBack layout v) {cs : List Char} (hbegins : Begins cs)
    (read : List Value) (hfuel : (writeValue layout depth v).length ≤ fuel) :
    readItems (fuel + 1) (writeValue layout depth v ++ (layout.separator depth ++ cs)) read =
      match firstLong? v with
      | some digits => .error (.longNumber digits)
      | none => readItems fuel cs (v :: read) := by
  obtain ⟨bs', hsep, hnext⟩ := hbegins.separator layout depth
  rw [hsep, readItems, hv (closes_of_blank blank_nil (by decide)) hfuel]
  cases firstLong? v with
  | some digits => rfl
  | none => simp only [orLong, List.nil_append, skipBlanks_cons (show isJsonBlank ',' = false by decide), hnext]

theorem readItems_written {items : List Value} (hne : items ≠ []) (h : ∀ v ∈ items, Plain v ∧ ReadsBack layout v)
    (hb : Blank bs) (read : List Value) (hfuel : (itemsText layout depth items).length < fuel) :
    readItems fuel (itemsText layout depth items ++ (bs ++ ']' :: rest)) read =
      orLong (firstLongOfItems? items) (read.reverse ++ items, rest) := by
  induction items generalizing fuel read with
  | nil => exact absurd rfl hne
  | cons v items ih =>
    obtain ⟨⟨-, hv⟩, hitems⟩ := List.forall_mem_cons.mp h
    obtain ⟨fuel, rfl⟩ := Nat.exists_eq_add_one.mpr (by omega : 0 < fuel)
    by_cases hmore : items = []
    · subst hmore
      have hone : itemsText layout depth [v] = writeValue layout depth v := rfl
      rw [hone] at hfuel ⊢
      rw [readItems_last hv hb read (by omega), firstLongOfItems?, firstLongOfItems?, Option.or_none, List.reverse_cons]
    · have hbegins : Begins (itemsText layout depth items ++ (bs ++ ']' :: rest)) := by
        obtain ⟨w, more, rfl⟩ := List.exists_cons_of_ne_nil hmore
        exact (begins_itemsText (hitems w List.mem_cons_self).1).append _
      -- The comma pays for the step that reads the item.
      have hcomma : 0 < (layout.separator depth).length := by
        obtain ⟨bs', hsep, -⟩ := separator_eq layout depth
        rw [hsep]
        exact Nat.succ_pos _
      rw [itemsText_cons layout depth v hmore] at hfuel ⊢
      simp only [List.length_append] at hfuel
      have hrest := ih hmore hitems (v :: read) (by omega : (itemsText layout depth items).length < fuel)
      rw [List.append_assoc, List.append_assoc, readItems_comma hv hbegins read (by omega), hrest, firstLongOfItems?]
      cases firstLong? v with
      | some digits => rfl
      | none => simp only [List.reverse_cons, List.append_assoc, List.singleton_append, Option.none_or]

/-- The text of an entry. -/
def entryText (layout : Layout) (depth : Nat) (name : String) (v : Value) : List Char :=
  writeText name ++ ':' :: ' ' :: writeValue layout depth v

/-- The text of entries, as it stands between braces. -/
def entriesText (layout : Layout) (depth : Nat) (entries : List (Value × Value)) : List Char :=
  joinPieces (layout.separator depth) (writeEntries layout depth entries)

theorem entriesText_cons (layout : Layout) (depth : Nat) (name : String) (v : Value) {entries : List (Value × Value)}
    (h : entries ≠ []) : entriesText layout depth ((.text name, v) :: entries) =
      entryText layout depth name v ++ layout.separator depth ++ entriesText layout depth entries := by
  obtain ⟨⟨k, w⟩, more, rfl⟩ := List.exists_cons_of_ne_nil h
  exact joinPieces_cons _ _ (by rw [writeEntries]; exact List.cons_ne_nil _ _)

theorem begins_entriesText {name : String} {v : Value} {entries : List (Value × Value)} :
    Begins (entriesText layout depth ((.text name, v) :: entries)) := by
  have hentry : Begins (entryText layout depth name v) := (begins_writeText name).append _
  by_cases h : entries = []
  · subst h
    exact hentry
  · rw [entriesText_cons layout depth name v h, List.append_assoc]
    exact hentry.append _

/-- An entry is read up to what follows it. -/
theorem readEntries_entry {name : String} {v : Value} (hp : Plain v) (hv : ReadsBack layout v) (hc : Closes rest)
    (read : List (Value × Value)) (hfuel : (writeValue layout depth v).length ≤ fuel) :
    readEntries (fuel + 1) (entryText layout depth name v ++ rest) read =
      match firstLong? v with
      | some digits => .error (.longNumber digits)
      | none =>
        match skipBlanks rest with
        | ',' :: rest => readEntries fuel (skipBlanks rest) (Value.put read (.text name) v)
        | '}' :: rest => .ok (Value.put read (.text name) v, rest)
        | _ => .error .malformed := by
  have htext : entryText layout depth name v ++ rest =
      '"' :: (name.toList.flatMap escapeChar ++ '"' :: ':' :: ([' '] ++ (writeValue layout depth v ++ rest))) := by
    simp [entryText, writeText]
  have hvalue : skipBlanks ([' '] ++ (writeValue layout depth v ++ rest)) = writeValue layout depth v ++ rest := by
    rw [skipBlanks_append (List.forall_mem_singleton.mpr (by decide))]
    exact ((begins_writeValue layout depth hp).append rest).skipBlanks_eq
  rw [htext, readEntries, readText_written]
  simp only [skipBlanks_cons (show isJsonBlank ':' = false by decide), hvalue, hv hc hfuel]
  cases firstLong? v <;> rfl

/-- The last entry, before the brace. -/
theorem readEntries_last {name : String} {v : Value} (hp : Plain v) (hv : ReadsBack layout v) (hb : Blank bs)
    (read : List (Value × Value)) (hapart : Apart (read ++ [(.text name, v)]))
    (hfuel : (writeValue layout depth v).length ≤ fuel) :
    readEntries (fuel + 1) (entryText layout depth name v ++ (bs ++ '}' :: rest)) read =
      orLong (firstLong? v) (read ++ [(.text name, v)], rest) := by
  rw [readEntries_entry hp hv (closes_of_blank hb (by decide)) read hfuel]
  cases firstLong? v with
  | some digits => rfl
  | none =>
    simp only [orLong, skipBlanks_append hb, skipBlanks_cons (show isJsonBlank '}' = false by decide),
      Value.put_of_apart hapart]

/-- An entry before a comma, after which others are read. -/
theorem readEntries_comma {name : String} {v : Value} (hp : Plain v) (hv : ReadsBack layout v) {cs : List Char}
    (hbegins : Begins cs) (read : List (Value × Value)) (hapart : Apart (read ++ [(.text name, v)]))
    (hfuel : (writeValue layout depth v).length ≤ fuel) :
    readEntries (fuel + 1) (entryText layout depth name v ++ (layout.separator depth ++ cs)) read =
      match firstLong? v with
      | some digits => .error (.longNumber digits)
      | none => readEntries fuel cs (read ++ [(.text name, v)]) := by
  obtain ⟨bs', hsep, hnext⟩ := hbegins.separator layout depth
  rw [hsep, readEntries_entry hp hv (closes_of_blank blank_nil (by decide)) read hfuel]
  cases firstLong? v with
  | some digits => rfl
  | none =>
    simp only [List.nil_append, skipBlanks_cons (show isJsonBlank ',' = false by decide), hnext,
      Value.put_of_apart hapart]

theorem readEntries_written {entries : List (Value × Value)} (hne : entries ≠ [])
    (hkeys : ∀ e ∈ entries, ∃ s, e.1 = .text s) (h : ∀ e ∈ entries, Plain e.2 ∧ ReadsBack layout e.2) (hb : Blank bs)
    (read : List (Value × Value)) (hapart : Apart (read ++ entries))
    (hfuel : (entriesText layout depth entries).length < fuel) :
    readEntries fuel (entriesText layout depth entries ++ (bs ++ '}' :: rest)) read =
      orLong (firstLongOfEntries? entries) (read ++ entries, rest) := by
  induction entries generalizing fuel read with
  | nil => exact absurd rfl hne
  | cons entry entries ih =>
    obtain ⟨⟨name, hname⟩, hnames⟩ := List.forall_mem_cons.mp hkeys
    obtain ⟨⟨hp, hv⟩, hentries⟩ := List.forall_mem_cons.mp h
    obtain ⟨k, v⟩ := entry
    obtain rfl : k = .text name := hname
    obtain ⟨fuel, rfl⟩ := Nat.exists_eq_add_one.mpr (by omega : 0 < fuel)
    by_cases hmore : entries = []
    · subst hmore
      have hone : entriesText layout depth [(.text name, v)] = entryText layout depth name v := rfl
      rw [hone] at hfuel ⊢
      simp only [entryText, List.length_append, List.length_cons] at hfuel
      have hlength : (writeValue layout depth v).length ≤ fuel := by omega
      rw [readEntries_last hp hv hb read hapart hlength, firstLongOfEntries?, firstLongOfEntries?, Option.or_none]
    · have hbegins : Begins (entriesText layout depth entries ++ (bs ++ '}' :: rest)) := by
        obtain ⟨⟨k, w⟩, more, rfl⟩ := List.exists_cons_of_ne_nil hmore
        obtain ⟨s, hs⟩ := hnames (k, w) List.mem_cons_self
        obtain rfl : k = .text s := hs
        exact begins_entriesText.append _
      rw [entriesText_cons layout depth name v hmore] at hfuel ⊢
      simp only [entryText, List.length_append, List.length_cons] at hfuel
      have hlength : (writeValue layout depth v).length ≤ fuel := by omega
      have hrest := ih hmore hnames hentries (read ++ [(.text name, v)]) (by simpa using hapart)
        (by omega : (entriesText layout depth entries).length < fuel)
      rw [List.append_assoc, List.append_assoc, readEntries_comma hp hv hbegins read (hapart.sublist (by simp)) hlength,
        hrest, firstLongOfEntries?]
      cases firstLong? v with
      | some digits => rfl
      | none => simp only [List.append_assoc, List.singleton_append, Option.none_or]

/-! ## Whole values -/

/-- What does not begin with the closing bracket is read as items. -/
theorem readValue_list (hb : Blank bs) (h : Begins cs) :
    readValue (fuel + 1) ('[' :: (bs ++ cs)) = (readItems fuel cs []).map fun (items, rest) => (.list items, rest) := by
  have hblanks : skipBlanks (bs ++ cs) = cs := (skipBlanks_append hb cs).trans h.skipBlanks_eq
  obtain ⟨c, more, rfl, -, hc, -⟩ := h
  rw [readValue, hblanks]
  split
  · rename_i heq
    exact absurd (List.cons.inj heq).1 hc
  · rfl

theorem readValue_map (hb : Blank bs) (h : Begins cs) :
    readValue (fuel + 1) ('{' :: (bs ++ cs)) =
      (readEntries fuel cs []).map fun (entries, rest) => (.map entries, rest) := by
  have hblanks : skipBlanks (bs ++ cs) = cs := (skipBlanks_append hb cs).trans h.skipBlanks_eq
  obtain ⟨c, more, rfl, -, -, hc⟩ := h
  rw [readValue, hblanks]
  split
  · rename_i heq
    exact absurd (List.cons.inj heq).1 hc
  · rfl

theorem readsBack_list {items : List Value} (h : ∀ v ∈ items, Plain v ∧ ReadsBack layout v) :
    ReadsBack layout (.list items) := by
  intro depth fuel rest _ hfuel
  by_cases hempty : items = []
  · subst hempty
    obtain ⟨fuel, rfl⟩ := Nat.exists_eq_add_one.mpr (Nat.lt_of_lt_of_le (by decide : 0 < 2) hfuel)
    rfl
  · obtain ⟨v, more, rfl⟩ := List.exists_cons_of_ne_nil hempty
    have hwritten : writeValue layout depth (.list (v :: more)) = '[' :: (layout.lineBreak (depth + 1) ++
        (itemsText layout (depth + 1) (v :: more) ++ (layout.lineBreak depth ++ [']']))) := by
      simp [writeValue, itemsText]
    have hbegins : Begins (itemsText layout (depth + 1) (v :: more) ++ (layout.lineBreak depth ++ ']' :: rest)) :=
      (begins_itemsText (h v List.mem_cons_self).1).append _
    rw [hwritten] at hfuel ⊢
    simp only [List.length_append, List.length_cons] at hfuel
    obtain ⟨fuel, rfl⟩ := Nat.exists_eq_add_one.mpr (by omega : 0 < fuel)
    simp only [List.cons_append, List.append_assoc, List.nil_append]
    rw [readValue_list (blank_lineBreak layout (depth + 1)) hbegins,
      readItems_written hempty h (blank_lineBreak layout depth) [] (by omega), firstLong?]
    cases firstLongOfItems? (v :: more) <;> rfl

theorem readsBack_map {entries : List (Value × Value)} (hapart : Apart entries)
    (hkeys : ∀ e ∈ entries, ∃ s, e.1 = .text s) (h : ∀ e ∈ entries, Plain e.2 ∧ ReadsBack layout e.2) :
    ReadsBack layout (.map entries) := by
  intro depth fuel rest _ hfuel
  by_cases hempty : entries = []
  · subst hempty
    obtain ⟨fuel, rfl⟩ := Nat.exists_eq_add_one.mpr (Nat.lt_of_lt_of_le (by decide : 0 < 2) hfuel)
    rfl
  · obtain ⟨⟨k, v⟩, more, rfl⟩ := List.exists_cons_of_ne_nil hempty
    obtain ⟨name, hname⟩ := hkeys (k, v) List.mem_cons_self
    obtain rfl : k = .text name := hname
    have hwritten : writeValue layout depth (.map ((.text name, v) :: more)) = '{' :: (layout.lineBreak (depth + 1) ++
        (entriesText layout (depth + 1) ((.text name, v) :: more) ++ (layout.lineBreak depth ++ ['}']))) := by
      simp [writeValue, entriesText]
    have hbegins : Begins (entriesText layout (depth + 1) ((.text name, v) :: more) ++
        (layout.lineBreak depth ++ '}' :: rest)) := begins_entriesText.append _
    rw [hwritten] at hfuel ⊢
    simp only [List.length_append, List.length_cons] at hfuel
    obtain ⟨fuel, rfl⟩ := Nat.exists_eq_add_one.mpr (by omega : 0 < fuel)
    simp only [List.cons_append, List.append_assoc, List.nil_append]
    rw [readValue_map (blank_lineBreak layout (depth + 1)) hbegins,
      readEntries_written hempty hkeys h (blank_lineBreak layout depth) [] hapart (by omega), firstLong?]
    cases firstLongOfEntries? ((.text name, v) :: more) <;> rfl

/-- Whatever begins has a character to read. -/
theorem Begins.fuel_pos (h : Begins cs) (hfuel : cs.length ≤ fuel) : ∃ k, fuel = k + 1 := by
  obtain ⟨c, rest, rfl, -⟩ := h
  exact Nat.exists_eq_add_one.mpr (Nat.lt_of_lt_of_le (Nat.zero_lt_succ _) hfuel)

/-- A plain value is read back from its text. -/
theorem readsBack (layout : Layout) : ∀ v : Value, Plain v → ReadsBack layout v
  | .null, hp => fun depth _ rest _ hfuel => by
    obtain ⟨_, rfl⟩ := (begins_writeValue layout depth hp).fuel_pos hfuel
    exact readValue_null rest
  | .bool b, hp => fun depth _ rest _ hfuel => by
    obtain ⟨_, rfl⟩ := (begins_writeValue layout depth hp).fuel_pos hfuel
    exact readValue_bool b rest
  | .int n, hp => fun depth _ _ hc hfuel => by
    obtain ⟨_, rfl⟩ := (begins_writeValue layout depth hp).fuel_pos hfuel
    exact readValue_int n hc
  | .text s, hp => fun depth _ rest _ hfuel => by
    obtain ⟨_, rfl⟩ := (begins_writeValue layout depth hp).fuel_pos hfuel
    exact readValue_text s rest
  | .list items, hp => readsBack_list fun v hv =>
    have hplain : Plain v := plainItems_iff.mp hp v hv
    ⟨hplain, readsBack layout v hplain⟩
  | .map entries, ⟨hapart, hp⟩ => readsBack_map hapart (plainEntries_iff.mp hp).1 fun e he =>
    have hplain : Plain e.2 := (plainEntries_iff.mp hp).2 e he
    ⟨hplain, readsBack layout e.2 hplain⟩
termination_by v => sizeOf v
decreasing_by
  · have := List.sizeOf_lt_of_mem hv
    simp only [Value.list.sizeOf_spec]
    omega
  · have := List.sizeOf_lt_of_mem he
    obtain ⟨k, w⟩ := e
    simp only [Value.map.sizeOf_spec, Prod.mk.sizeOf_spec] at this ⊢
    omega

/-- The text of a plain value, with a line break after it, is read as the value, or refused for the first number in it
  that has too many digits. -/
theorem read_write (layout : Layout) {v : Value} (h : Plain v) :
    read (write layout v ++ "\n") =
      match firstLong? v with
      | none => .ok v
      | some digits => .error (.longNumber digits) := by
  have hclose : Closes ['\n'] := by
    intro c hc
    obtain rfl := Option.some.inj hc
    decide
  have htext : (write layout v ++ "\n").toList = writeValue layout 0 v ++ ['\n'] := by
    rw [write, String.toList_append, String.toList_ofList]
    rfl
  have hlength : (writeValue layout 0 v).length ≤ (write layout v ++ "\n").length + 1 := by
    rw [← String.length_toList, htext, List.length_append]
    omega
  have hbegins := (begins_writeValue layout 0 h).append ['\n']
  rw [read, htext, hbegins.skipBlanks_eq, readsBack layout v h hclose hlength]
  cases firstLong? v <;> rfl

/-! ## Line ends -/

theorem return_not_mem_escapeChar (c : Char) : '\r' ∉ escapeChar c := by
  have hdigits : ∀ n < 0x20, '\r' ∉ Text.hexDigits 4 n := by decide
  by_cases hc : c = '\r'
  · subst hc
    decide
  · unfold escapeChar
    iterate 7 (split; · decide)
    split
    · rename_i hsmall
      simp [hdigits _ hsmall]
    · simpa using Ne.symm hc

theorem return_not_mem_writeText (s : String) : '\r' ∉ writeText s := by
  simp only [writeText, List.cons_append, List.mem_cons, List.mem_append, List.mem_flatMap, List.not_mem_nil, or_false,
    not_or, not_exists, not_and]
  exact ⟨by decide, fun c _ => return_not_mem_escapeChar c, by decide⟩

theorem return_not_mem_toString (n : Int) : '\r' ∉ (toString n).toList := by
  rw [toList_toString, List.mem_append, not_or]
  constructor
  · split <;> decide
  · exact fun h => absurd (isDigit_of_mem_toDigits h) (by decide)

theorem return_not_mem_lineBreak (layout : Layout) (depth : Nat) : '\r' ∉ layout.lineBreak depth := by
  cases layout with
  | oneLine => exact List.not_mem_nil
  | steps spaces => simp [Layout.lineBreak]

theorem return_not_mem_separator (layout : Layout) (depth : Nat) : '\r' ∉ layout.separator depth := by
  cases layout with
  | oneLine => simp [Layout.separator]
  | steps spaces => simp [Layout.separator, Layout.lineBreak]

theorem not_mem_joinPieces {separator : List Char} {pieces : List (List Char)} (hs : c ∉ separator)
    (hp : ∀ piece ∈ pieces, c ∉ piece) : c ∉ joinPieces separator pieces := by
  induction pieces with
  | nil => exact List.not_mem_nil
  | cons piece pieces ih =>
    obtain ⟨hpiece, hpieces⟩ := List.forall_mem_cons.mp hp
    by_cases hmore : pieces = []
    · subst hmore
      exact hpiece
    · rw [joinPieces_cons separator piece hmore, List.mem_append, List.mem_append]
      rintro ((h | h) | h)
      · exact hpiece h
      · exact hs h
      · exact ih hpieces h

mutual

/-- A written value has no carriage returns: those of its texts are escaped. -/
theorem return_not_mem_writeValue (layout : Layout) (depth : Nat) : ∀ v : Value, Plain v → '\r' ∉ writeValue layout depth v
  | .null, _ => by simp [writeValue]
  | .bool b, _ => by cases b <;> simp [writeValue]
  | .int n, _ => return_not_mem_toString n
  | .text s, _ => return_not_mem_writeText s
  | .list items, h => by
    have hitems := not_mem_joinPieces (return_not_mem_separator layout (depth + 1))
      (return_not_mem_writeItems layout (depth + 1) items h)
    rw [writeValue]
    split
    · decide
    · simp only [List.cons_append, List.mem_cons, List.mem_append, List.not_mem_nil, return_not_mem_lineBreak, hitems]
      decide
  | .map entries, h => by
    have hentries := not_mem_joinPieces (return_not_mem_separator layout (depth + 1))
      (return_not_mem_writeEntries layout (depth + 1) entries h.2)
    rw [writeValue]
    split
    · decide
    · simp only [List.cons_append, List.mem_cons, List.mem_append, List.not_mem_nil, return_not_mem_lineBreak, hentries]
      decide

theorem return_not_mem_writeItems (layout : Layout) (depth : Nat) :
    ∀ items : List Value, PlainItems items → ∀ piece ∈ writeItems layout depth items, '\r' ∉ piece
  | [], _ => List.forall_mem_nil _
  | v :: items, h => List.forall_mem_cons.mpr
    ⟨return_not_mem_writeValue layout depth v h.1, return_not_mem_writeItems layout depth items h.2⟩

theorem return_not_mem_writeEntries (layout : Layout) (depth : Nat) :
    ∀ entries : List (Value × Value), PlainEntries entries → ∀ piece ∈ writeEntries layout depth entries, '\r' ∉ piece
  | [], _ => List.forall_mem_nil _
  | (k, v) :: entries, h => List.forall_mem_cons.mpr ⟨by
      simp only [List.mem_append, List.mem_cons, return_not_mem_writeText, return_not_mem_writeValue layout depth v h.2.1]
      decide, return_not_mem_writeEntries layout depth entries h.2.2⟩

end

end CrudQueries.Data.Json
