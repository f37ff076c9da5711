/-
  CrudQueries.Proofs.Data.Entries — the keys and values of entries.

  Putting entries into a list adds their keys and loses none (`mem_keys_putAll`), and every entry of
  the outcome is an old one or a new one (`mem_putAll`). Entries whose keys are all different are put
  at the end, in order (`putAll_of_nodup`). A look-up sees what was put last (`get?_put`, `get?_putAll`) and what a
  choice of keys leaves (`get?_filter`), and among different keys every entry (`get?_of_mem`), in any order
  (`get?_perm`).
-/

import CrudQueries.Data.Entries

namespace CrudQueries.Data.Entries

variable {κ α : Type} [BEq κ]

theorem putAll_append (entries more others : List (κ × α)) :
    putAll entries (more ++ others) = putAll (putAll entries more) others := List.foldl_append

theorem get?_append (entries others : List (κ × α)) (k : κ) :
    get? (entries ++ others) k = (get? entries k).or (get? others k) := by
  unfold get?
  rw [List.find?_append]
  cases entries.find? fun e => e.1 == k <;> rfl

variable [LawfulBEq κ]

theorem mem_keys_put {entries : List (κ × α)} {key k : κ} {value : α} :
    k ∈ (put entries key value).map (·.1) ↔ k ∈ entries.map (·.1) ∨ k = key := by
  induction entries with
  | nil => simp [put]
  | cons entry rest ih =>
    obtain ⟨j, v⟩ := entry
    rw [put]
    split
    · rename_i h
      rw [beq_iff_eq] at h
      subst h
      simp only [List.map_cons, List.mem_cons]
      constructor
      · exact Or.inl
      · rintro (h | rfl)
        · exact h
        · exact Or.inl rfl
    · simp only [List.map_cons, List.mem_cons, ih, or_assoc]

theorem mem_put {entries : List (κ × α)} {key : κ} {value : α} {entry : κ × α} (h : entry ∈ put entries key value) :
    entry ∈ entries ∨ entry = (key, value) := by
  induction entries with
  | nil => exact Or.inr (by simpa [put] using h)
  | cons first rest ih =>
    obtain ⟨j, v⟩ := first
    rw [put] at h
    split at h
    · rename_i hj
      rw [beq_iff_eq] at hj
      subst hj
      rcases List.mem_cons.mp h with rfl | h
      · exact Or.inr rfl
      · exact Or.inl (List.mem_cons_of_mem _ h)
    · rcases List.mem_cons.mp h with rfl | h
      · exact Or.inl List.mem_cons_self
      · exact (ih h).imp_left (List.mem_cons_of_mem _)

theorem mem_keys_putAll (entries more : List (κ × α)) {k : κ} :
    k ∈ (putAll entries more).map (·.1) ↔ k ∈ entries.map (·.1) ∨ k ∈ more.map (·.1) := by
  induction more generalizing entries with
  | nil => simp [putAll]
  | cons entry more ih =>
    have := ih (put entries entry.1 entry.2)
    simp only [putAll, List.foldl_cons, List.map_cons, List.mem_cons] at this ⊢
    rw [this, mem_keys_put, or_assoc]

theorem mem_putAll (entries more : List (κ × α)) {entry : κ × α} (h : entry ∈ putAll entries more) :
    entry ∈ entries ∨ entry ∈ more := by
  induction more generalizing entries with
  | nil => exact Or.inl h
  | cons first more ih =>
    rcases ih (put entries first.1 first.2) h with h | h
    · rcases mem_put h with h | rfl
      · exact Or.inl h
      · exact Or.inr List.mem_cons_self
    · exact Or.inr (List.mem_cons_of_mem _ h)

theorem put_of_not_mem {entries : List (κ × α)} {key : κ} (value : α) (h : key ∉ entries.map (·.1)) :
    put entries key value = entries ++ [(key, value)] := by
  induction entries with
  | nil => rfl
  | cons entry rest ih =>
    obtain ⟨j, v⟩ := entry
    simp only [List.map_cons, List.mem_cons, not_or] at h
    rw [put, if_neg (by simpa using Ne.symm h.1), ih h.2, List.cons_append]

/-- A key that is there keeps its place. -/
theorem keys_put_of_mem {entries : List (κ × α)} {key : κ} (value : α) (h : key ∈ entries.map (·.1)) :
    (put entries key value).map (·.1) = entries.map (·.1) := by
  induction entries with
  | nil => cases h
  | cons entry rest ih =>
    obtain ⟨j, v⟩ := entry
    rw [put]
    split
    · rfl
    · rename_i hj
      have hrest : key ∈ rest.map (·.1) := (List.mem_cons.mp h).resolve_left fun heq => hj (by simp [heq])
      rw [List.map_cons, List.map_cons, ih hrest]

/-- The last value put for a key stays. -/
theorem put_put (entries : List (κ × α)) (key : κ) (first last : α) :
    put (put entries key first) key last = put entries key last := by
  induction entries with
  | nil => simp [put]
  | cons entry rest ih =>
    obtain ⟨k, v⟩ := entry
    by_cases h : k = key
    · simp [put, h]
    · simp [put, h, ih]

theorem putAll_of_nodup (entries more : List (κ × α)) (h : ((entries ++ more).map (·.1)).Nodup) :
    putAll entries more = entries ++ more := by
  induction more generalizing entries with
  | nil => simp [putAll]
  | cons entry more ih =>
    obtain ⟨key, value⟩ := entry
    have hkey : key ∉ entries.map (·.1) := by
      rw [List.map_append, List.map_cons, List.nodup_append] at h
      exact fun hm => h.2.2 _ hm _ List.mem_cons_self rfl
    have hput : putAll entries ((key, value) :: more) = putAll (entries ++ [(key, value)]) more :=
      congrArg (putAll · more) (put_of_not_mem value hkey)
    rw [hput, ih _ (by simpa using h), List.append_assoc, List.singleton_append]

/-! ## Looking up -/

theorem get?_put (entries : List (κ × α)) (key k : κ) (value : α) :
    get? (put entries key value) k = if k == key then some value else get? entries k := by
  induction entries with
  | nil =>
    by_cases h : key = k
    · subst h; simp [put, get?]
    · simp [put, get?, h, Ne.symm h]
  | cons entry rest ih =>
    obtain ⟨j, v⟩ := entry
    simp only [get?] at ih ⊢
    rw [put]
    by_cases hj : j = key
    · subst hj
      by_cases hk : j = k
      · subst hk; simp
      · simp [hk, Ne.symm hk]
    · by_cases hk : j = k
      · subst hk; simp [hj]
      · simp only [beq_iff_eq, hj, if_false, List.find?_cons, beq_false_of_ne hk, ih]

/-- Of the entries that are put with one key the last is seen. -/
theorem get?_putAll (entries more : List (κ × α)) (k : κ) :
    get? (putAll entries more) k = (get? more.reverse k).or (get? entries k) := by
  induction more generalizing entries with
  | nil => rfl
  | cons entry more ih =>
    have hone : get? [entry] k = if k == entry.1 then some entry.2 else none := by
      by_cases h : entry.1 = k
      · simp [get?, h]
      · simp [get?, h, Ne.symm h]
    calc get? (putAll entries (entry :: more)) k
        = (get? more.reverse k).or (get? (put entries entry.1 entry.2) k) := ih _
      _ = (get? more.reverse k).or ((get? [entry] k).or (get? entries k)) := by
        rw [get?_put, hone]
        split <;> rfl
      _ = (get? (entry :: more).reverse k).or (get? entries k) := by
        rw [List.reverse_cons, get?_append, Option.or_assoc]

theorem get?_filter (entries : List (κ × α)) (keep : κ → Bool) (k : κ) :
    get? (entries.filter fun (j, _) => keep j) k = if keep k then get? entries k else none := by
  induction entries with
  | nil => simp [get?]
  | cons entry rest ih =>
    obtain ⟨j, v⟩ := entry
    simp only [get?] at ih ⊢
    by_cases hj : keep j = true
    · rw [List.filter_cons_of_pos (by simpa using hj)]
      by_cases hk : j = k
      · subst hk; simp [hj]
      · simp only [List.find?_cons, beq_false_of_ne hk, ih]
    · rw [List.filter_cons_of_neg (by simpa using hj), ih]
      by_cases hk : j = k
      · subst hk; simp [hj]
      · simp only [List.find?_cons, beq_false_of_ne hk]

theorem mem_of_get? {entries : List (κ × α)} {k : κ} {value : α} (h : get? entries k = some value) :
    (k, value) ∈ entries := by
  obtain ⟨entry, hfind, rfl⟩ := Option.map_eq_some_iff.mp h
  have hkey : entry.1 = k := by simpa using List.find?_some hfind
  rw [← hkey]
  exact List.mem_of_find?_eq_some hfind

theorem get?_of_mem {entries : List (κ × α)} (h : (entries.map (·.1)).Nodup) {k : κ} {value : α}
    (hm : (k, value) ∈ entries) : get? entries k = some value := by
  induction entries with
  | nil => cases hm
  | cons entry rest ih =>
    obtain ⟨j, v⟩ := entry
    simp only [get?] at ih ⊢
    rw [List.map_cons, List.nodup_cons] at h
    rcases List.mem_cons.mp hm with he | hm
    · obtain ⟨rfl, rfl⟩ := Prod.mk.inj he
      simp
    · have hk : j ≠ k := by
        rintro rfl
        exact h.1 (List.mem_map.mpr ⟨_, hm, rfl⟩)
      rw [List.find?_cons, beq_false_of_ne hk]
      exact ih h.2 hm

/-- Among different keys a look-up finds what is there. -/
theorem get?_eq_some_iff {entries : List (κ × α)} (h : (entries.map (·.1)).Nodup) {k : κ} {value : α} :
    get? entries k = some value ↔ (k, value) ∈ entries :=
  ⟨mem_of_get?, get?_of_mem h⟩

/-- So their order does not matter. -/
theorem get?_perm {entries others : List (κ × α)} (hp : entries.Perm others) (h : (entries.map (·.1)).Nodup) (k : κ) :
    get? others k = get? entries k := by
  have h' : (others.map (·.1)).Nodup := (hp.map _).nodup_iff.mp h
  refine Option.ext fun value => ?_
  rw [get?_eq_some_iff h, get?_eq_some_iff h', hp.mem_iff]

end CrudQueries.Data.Entries
