/-
  CrudQueries.Proofs.Data.Mapping — mappings with keys of any kind, looked up by text.

  A key that is the same as a text is that text (`sameKey_text`). So a look-up by text sees what was put
  under that text last, whatever keys there are besides (`field?_put`, `field?_erase`, `field?_overlay`),
  and that a key is a text of some list is not lost or gained by putting entries over each other
  (`forall_keys_overlay`). Keys of which no two are the same stay so (`Apart.overlay`), and mappings with
  such keys are made again by putting their entries one after the other (`overlay_of_apart`).
-/

import CrudQueries.Data.Value

namespace CrudQueries.Data.Value

variable {entries base layer : List (Value × Value)} {k key value : Value} {name : String}

/-! ## Texts as keys -/

theorem sameKey_text : sameKey k (.text name) = true ↔ k = .text name := by
  cases k with
  | float x => cases hx : x.toInt? <;> simp [sameKey, whole?, hx]
  | _ => simp [sameKey, whole?]

theorem text_sameKey : sameKey (.text name) k = true ↔ k = .text name := by
  cases k with
  | text s => rw [← sameKey_text, sameKey, sameKey, beq_iff_eq, beq_iff_eq, eq_comm]
  | float x => cases hx : x.toInt? <;> simp [sameKey, whole?, hx]
  | _ => simp [sameKey, whole?]

/-- Of two keys that are the same one is a text only if the other is. -/
theorem eq_text_iff (h : sameKey k key = true) : k = .text name ↔ key = .text name := by
  constructor
  · rintro rfl
    exact text_sameKey.mp h
  · rintro rfl
    exact sameKey_text.mp h

/-! ## Looking up -/

@[simp] theorem field?_nil (name : String) : field? [] name = none := rfl

theorem field?_cons (k v : Value) (entries : List (Value × Value)) (name : String) :
    field? ((k, v) :: entries) name = if sameKey k (.text name) then some v else field? entries name := by
  unfold field? get?
  cases h : sameKey k (.text name) <;> simp [h]

theorem field?_append (entries others : List (Value × Value)) (name : String) :
    field? (entries ++ others) name = (field? entries name).or (field? others name) := by
  unfold field? get?
  rw [List.find?_append]
  cases entries.find? fun e => sameKey e.1 (.text name) <;> rfl

theorem field?_isSome_of_mem {e : Value × Value} (he : e ∈ entries) (hkey : e.1 = .text name) :
    (field? entries name).isSome := by
  unfold field? get?
  rw [Option.isSome_map, List.find?_isSome]
  exact ⟨e, he, sameKey_text.mpr hkey⟩

/-- What was put last is seen. -/
theorem field?_put (entries : List (Value × Value)) (key value : Value) (name : String) :
    field? (put entries key value) name = if sameKey key (.text name) then some value else field? entries name := by
  induction entries with
  | nil => rw [put, field?_cons]
  | cons entry rest ih =>
    obtain ⟨k, v⟩ := entry
    rw [put]
    by_cases hk : sameKey k key = true
    · have hsame : sameKey k (.text name) = sameKey key (.text name) := by
        rw [Bool.eq_iff_iff, sameKey_text, sameKey_text, eq_text_iff hk]
      rw [if_pos hk, field?_cons, field?_cons, hsame]
      split <;> rfl
    · rw [if_neg hk, field?_cons, field?_cons, ih]
      by_cases hname : sameKey k (.text name) = true
      · have hkey : ¬ sameKey key (.text name) = true := fun h => hk (by
          rw [sameKey_text.mp hname, sameKey_text.mp h]
          exact sameKey_text.mpr rfl)
        rw [if_pos hname, if_neg hkey, if_pos hname]
      · simp only [if_neg hname]

@[simp] theorem field?_put_self (entries : List (Value × Value)) (name : String) (value : Value) :
    field? (put entries (.text name) value) name = some value := by
  rw [field?_put, if_pos (sameKey_text.mpr rfl)]

theorem field?_put_of_ne (h : key ≠ .text name) : field? (put entries key value) name = field? entries name := by
  rw [field?_put, if_neg fun hk => h (sameKey_text.mp hk)]

theorem field?_erase_of_ne (h : key ≠ .text name) : field? (erase entries key) name = field? entries name := by
  induction entries with
  | nil => rfl
  | cons entry rest ih =>
    obtain ⟨k, v⟩ := entry
    unfold erase at ih ⊢
    by_cases hk : sameKey k key = true
    · have hname : ¬ sameKey k (.text name) = true := fun hn => h ((eq_text_iff hk).mp (sameKey_text.mp hn))
      rw [List.filter_cons_of_neg (by simp [hk]), field?_cons, if_neg hname, ih]
    · rw [List.filter_cons_of_pos (by simp [hk]), field?_cons, field?_cons, ih]

/-- Of the entries that are put for one text the last is seen. -/
theorem field?_overlay (base layer : List (Value × Value)) (name : String) :
    field? (overlay base layer) name = (field? layer.reverse name).or (field? base name) := by
  induction layer generalizing base with
  | nil => rfl
  | cons entry layer ih =>
    obtain ⟨k, v⟩ := entry
    calc field? (overlay base ((k, v) :: layer)) name
        = (field? layer.reverse name).or (field? (put base k v) name) := ih _
      _ = (field? layer.reverse name).or ((field? [(k, v)] name).or (field? base name)) := by
        rw [field?_put, field?_cons]
        split <;> rfl
      _ = (field? ((k, v) :: layer).reverse name).or (field? base name) := by
        rw [List.reverse_cons, field?_append, Option.or_assoc]

/-! ## Keys -/

/-- Is the value a text of the list? -/
def IsNamed (names : List String) (key : Value) : Prop := ∃ name ∈ names, key = .text name

theorem forall_keys_put {names : List String} :
    (∀ e ∈ put entries key value, IsNamed names e.1) ↔ (∀ e ∈ entries, IsNamed names e.1) ∧ IsNamed names key := by
  induction entries with
  | nil => simp [put]
  | cons entry rest ih =>
    obtain ⟨k, v⟩ := entry
    rw [put]
    by_cases hk : sameKey k key = true
    · have hiff : IsNamed names k ↔ IsNamed names key :=
        exists_congr fun name => and_congr_right fun _ => eq_text_iff hk
      rw [if_pos hk, List.forall_mem_cons, List.forall_mem_cons, hiff]
      exact ⟨fun h => ⟨h, h.1⟩, And.left⟩
    · rw [if_neg hk, List.forall_mem_cons, List.forall_mem_cons, ih, and_assoc]

theorem forall_keys_overlay {names : List String} : (∀ e ∈ overlay base layer, IsNamed names e.1) ↔
    (∀ e ∈ base, IsNamed names e.1) ∧ ∀ e ∈ layer, IsNamed names e.1 := by
  induction layer generalizing base with
  | nil => simp [overlay]
  | cons entry layer ih =>
    obtain ⟨k, v⟩ := entry
    have hstep : (∀ e ∈ overlay (put base k v) layer, IsNamed names e.1) ↔
        (∀ e ∈ put base k v, IsNamed names e.1) ∧ ∀ e ∈ layer, IsNamed names e.1 := ih
    rw [forall_keys_put, and_assoc] at hstep
    rw [List.forall_mem_cons]
    exact hstep

/-- Which keys there are, and in which order, does not depend on the values. -/
theorem keys_put {others : List (Value × Value)} (h : entries.map (·.1) = others.map (·.1)) (key v w : Value) :
    (put entries key v).map (·.1) = (put others key w).map (·.1) := by
  induction entries generalizing others with
  | nil =>
    rw [List.map_nil, eq_comm, List.map_eq_nil_iff] at h
    rw [h]
    rfl
  | cons entry rest ih =>
    cases others with
    | nil => cases h
    | cons other others =>
      obtain ⟨hkey, hrest⟩ := List.cons.inj h
      have hkey : entry.1 = other.1 := hkey
      rw [put, put, hkey]
      split
      · exact congrArg (List.cons other.1) hrest
      · exact congrArg (List.cons other.1) (ih hrest)

theorem keys_erase {others : List (Value × Value)} (h : entries.map (·.1) = others.map (·.1)) (key : Value) :
    (erase entries key).map (·.1) = (erase others key).map (·.1) := by
  have hmap (es : List (Value × Value)) : (erase es key).map (·.1) = (es.map (·.1)).filter fun k => !sameKey k key := by
    rw [List.filter_map]
    rfl
  rw [hmap, hmap, h]

/-- A key that is there keeps its place. -/
theorem keys_put_of_field? {v : Value} (h : field? entries name = some v) (w : Value) :
    (put entries (.text name) w).map (·.1) = entries.map (·.1) := by
  induction entries with
  | nil => cases h
  | cons entry rest ih =>
    obtain ⟨k, u⟩ := entry
    rw [put]
    rw [field?_cons] at h
    by_cases hk : sameKey k (.text name) = true
    · rw [if_pos hk]
      rfl
    · rw [if_neg hk] at h ⊢
      exact congrArg (List.cons k) (ih h)

/-- No two keys are the same. -/
def Apart (entries : List (Value × Value)) : Prop := entries.Pairwise fun a b => sameKey a.1 b.1 = false

theorem put_of_apart (h : Apart (entries ++ [(key, value)])) : put entries key value = entries ++ [(key, value)] := by
  induction entries with
  | nil => rfl
  | cons entry rest ih =>
    obtain ⟨k, v⟩ := entry
    have hk : sameKey k key = false := (List.pairwise_cons.mp h).1 (key, value) (by simp)
    rw [put, if_neg (by simp [hk]), ih (List.pairwise_cons.mp h).2, List.cons_append]

/-- What holds of the keys of entries and of a further key holds of all keys once that is put. -/
theorem forall_put {P : Value → Prop} (h : ∀ e ∈ entries, P e.1) (hkey : P key) (value : Value) :
    ∀ e ∈ put entries key value, P e.1 := by
  induction entries with
  | nil => exact List.forall_mem_singleton.mpr hkey
  | cons entry rest ih =>
    obtain ⟨hentry, hrest⟩ := List.forall_mem_cons.mp h
    rw [put]
    split
    · exact List.forall_mem_cons.mpr ⟨hentry, hrest⟩
    · exact List.forall_mem_cons.mpr ⟨hentry, ih hrest⟩

theorem Apart.put (h : Apart entries) (key value : Value) : Apart (put entries key value) := by
  induction entries with
  | nil => exact List.pairwise_singleton _ _
  | cons entry rest ih =>
    obtain ⟨hfirst, hrest⟩ := List.pairwise_cons.mp h
    rw [Value.put]
    by_cases hk : sameKey entry.1 key = true
    · rw [if_pos hk]
      exact List.pairwise_cons.mpr ⟨hfirst, hrest⟩
    · rw [if_neg hk]
      exact List.pairwise_cons.mpr
        ⟨forall_put (P := fun k => sameKey entry.1 k = false) hfirst (by simpa using hk) value, ih hrest⟩

theorem Apart.overlay (h : Apart base) (layer : List (Value × Value)) : Apart (overlay base layer) := by
  induction layer generalizing base with
  | nil => exact h
  | cons entry layer ih => exact ih (h.put entry.1 entry.2)

/-- Entries with keys of their own are put at the end, in order. -/
theorem overlay_of_apart (h : Apart (base ++ layer)) : overlay base layer = base ++ layer := by
  induction layer generalizing base with
  | nil => exact (List.append_nil base).symm
  | cons entry layer ih =>
    have hput : Value.put base entry.1 entry.2 = base ++ [entry] :=
      put_of_apart (h.sublist (by simp))
    calc overlay base (entry :: layer) = overlay (base ++ [entry]) layer := congrArg (Value.overlay · layer) hput
      _ = base ++ [entry] ++ layer := ih (by simpa using h)
      _ = base ++ entry :: layer := by simp

end CrudQueries.Data.Value
