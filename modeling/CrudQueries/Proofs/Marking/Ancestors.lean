/-
  CrudQueries.Proofs.Marking.Ancestors — what the search through a class and its ancestors finds.

  An order that is merged from lists keeps each of them and has no other members (`Merged.keeps`, `Merged.mem`). So a
  class looks through itself first and then through classes that were made before it (`Ordered`, `ordered_afterAll`),
  its bases among them. The search thus finds the marker of the class itself or, if it has none, that of the first
  marked class among its ancestors (`inheritedMark?_afterAll`): a class with a marked base has none of its own when it
  is made, and the search finds one (`heir_unmarked`).
-/

import CrudQueries.Proofs.Marking.FirstMark

namespace CrudQueries.Marking

/-! ## Orders -/

section Merge

variable {α : Type} [DecidableEq α] {a : α} {list order : List α} {lists : List (List α)}

/-- The members of the lists come one after the other, each when no list has it further back. -/
inductive Merged : List (List α) → List α → Prop
  | done {lists : List (List α)} (h : ∀ list ∈ lists, list = []) : Merged lists []
  | next {lists : List (List α)} {a : α} {order : List α} (h : nextMember? lists = some a)
      (rest : Merged (dropHead a lists) order) : Merged lists (a :: order)

theorem merged_of_mergeFrom {fuel : Nat} (h : mergeFrom fuel lists = .ok order) : Merged lists order := by
  fun_induction mergeFrom fuel lists generalizing order with
  | case1 _ lists hempty =>
    cases h
    exact .done (by simpa using hempty)
  | case2 lists _ fuel a hnext ih =>
    cases hrest : mergeFrom fuel (dropHead a lists) with
    | error stuck => rw [hrest] at h; cases h
    | ok rest =>
      rw [hrest] at h
      cases h
      exact .next hnext (ih hrest)
  | case3 => cases h

/-- An order keeps the order of each list. -/
theorem Merged.keeps (h : Merged lists order) (hlist : list ∈ lists) : list.Sublist order := by
  induction h generalizing list with
  | done h => exact (h list hlist) ▸ List.nil_sublist _
  | @next lists a order _ _ ih =>
    have hdrop := ih (List.mem_map.mpr ⟨list, hlist, rfl⟩)
    cases list with
    | nil => exact List.nil_sublist _
    | cons b list =>
      by_cases hb : b = a
      · subst hb
        simpa using hdrop
      · simp only [List.head?_cons, beq_iff_eq, Option.some.injEq, hb, if_false] at hdrop
        exact hdrop.cons a

/-- An order has no members but those of the lists. -/
theorem Merged.mem (h : Merged lists order) (ha : a ∈ order) : ∃ list ∈ lists, a ∈ list := by
  induction h with
  | done _ => cases ha
  | next h _ ih =>
    rcases List.mem_cons.mp ha with rfl | ha
    · obtain ⟨list, hlist, hhead⟩ := List.mem_filterMap.mp (List.mem_of_find?_eq_some h)
      exact ⟨list, hlist, List.mem_of_head? hhead⟩
    · obtain ⟨_, hdrop, ha⟩ := ih ha
      obtain ⟨list, hlist, rfl⟩ := List.mem_map.mp hdrop
      refine ⟨list, hlist, ?_⟩
      split at ha
      · exact List.mem_of_mem_drop ha
      · exact ha

end Merge

namespace Registry

variable {r : Registry} {n k : Nat} {c : Call} {calls : List Call} {bases ancestors : List Nat}

/-- The classes that the search for a class looks through, in order. -/
def orderAt (r : Registry) (n : Nat) : List Nat := (r.classes[n]?.map (·.order)).getD []

/-- Every class looks through itself first, and then through classes that were made before it. -/
structure Ordered (r : Registry) : Prop where
  root : root < r.classes.length
  order : ∀ n, n < r.classes.length → ∃ ancestors, r.orderAt n = n :: ancestors ∧ ∀ k ∈ ancestors, k < n

theorem ordered_initial : Ordered initial := by
  refine ⟨by decide, fun n hn => ?_⟩
  match n, hn with
  | 0, _ => exact ⟨[], rfl, List.forall_mem_nil _⟩
  | 1, _ => exact ⟨[0], rfl, by decide⟩

theorem merged_of_ancestors (hbases : bases ≠ []) (h : r.ancestors bases = .ok ancestors) :
    Merged (bases.map r.orderAt ++ [bases]) ancestors := by
  unfold Registry.ancestors at h
  split at h
  · exact absurd rfl hbases
  · split at h
    · cases h
    · change (merge (bases.map r.orderAt ++ [bases])).mapError _ = .ok ancestors at h
      cases hmerge : merge (bases.map r.orderAt ++ [bases]) with
      | error stuck => rw [hmerge] at h; cases h
      | ok order =>
        rw [hmerge] at h
        cases h
        exact merged_of_mergeFrom hmerge

/-- The bases of a new class are among its ancestors. -/
theorem mem_ancestors (h : r.ancestors bases = .ok ancestors) (hk : k ∈ bases) : k ∈ ancestors :=
  have hmerged := merged_of_ancestors (List.ne_nil_of_mem hk) h
  (hmerged.keeps (List.mem_append_right _ (List.mem_singleton.mpr rfl))).subset hk

/-- The ancestors of a new class were made before it, as its bases were. -/
theorem ancestors_lt (hr : Ordered r) (hbases : ∀ n ∈ bases, n < r.classes.length)
    (h : r.ancestors bases = .ok ancestors) (hk : k ∈ ancestors) : k < r.classes.length := by
  cases hempty : bases with
  | nil =>
    subst hempty
    cases h
    exact List.mem_singleton.mp hk ▸ hr.root
  | cons b rest =>
    obtain ⟨list, hlist, hmem⟩ := (merged_of_ancestors (by rw [hempty]; exact List.cons_ne_nil b rest) h).mem hk
    rcases List.mem_append.mp hlist with hlist | hlist
    · -- The order of a base holds the base and what was made before it.
      obtain ⟨n, hn, rfl⟩ := List.mem_map.mp hlist
      obtain ⟨older, horder, holder⟩ := hr.order n (hbases n hn)
      rw [horder] at hmem
      rcases List.mem_cons.mp hmem with rfl | hmem
      · exact hbases k hn
      · exact Nat.lt_trans (holder k hmem) (hbases n hn)
    · rw [List.mem_singleton.mp hlist] at hmem
      exact hbases k hmem

/-! ## Any number of calls -/

theorem orderAt_store (r : Registry) (n : Nat) (content : Content) (k : Nat) :
    (r.store n content).orderAt k = r.orderAt k := by
  unfold orderAt store
  by_cases h : n = k
  · subst h
    cases hclass : r.classes[n]? <;> simp [hclass]
  · simp [h]

theorem ordered_store (hr : Ordered r) (n : Nat) (content : Content) : Ordered (r.store n content) := by
  have hlength : (r.store n content).classes.length = r.classes.length := List.length_modify _ _ _
  refine ⟨hlength ▸ hr.root, fun k hk => ?_⟩
  rw [orderAt_store]
  exact hr.order k (hlength ▸ hk)

theorem ordered_make {name : String} {made : Registry} (hr : Ordered r) (hbases : ∀ n ∈ bases, n < r.classes.length)
    (h : r.make name bases = .ok made) : Ordered made := by
  obtain ⟨ancestors, hancestors, rfl⟩ := make_eq_ok h
  refine ⟨?_, fun n hn => ?_⟩
  · have := hr.root
    simp only [List.length_append, List.length_singleton]
    omega
  · simp only [List.length_append, List.length_singleton] at hn
    rcases Nat.lt_succ_iff_lt_or_eq.mp hn with hlt | rfl
    · rw [orderAt, List.getElem?_append_left hlt]
      exact hr.order n hlt
    · exact ⟨ancestors, by simp [orderAt], fun k hk => ancestors_lt hr hbases hancestors hk⟩

theorem ordered_after (hr : Ordered r) (hhas : r.Has c) : Ordered (r.after c) := by
  cases c with
  | make name bases =>
    cases h : r.make name bases with
    | error e => rwa [after_of_error (by rw [answer, h]; rfl)]
    | ok made =>
      rw [after_of_ok (by rw [answer, h]; rfl)]
      exact ordered_make hr hhas h
  | apply m subject =>
    rcases after_apply r m subject with hsame | ⟨n, -, -, hstored⟩
    · rwa [hsame]
    · rw [hstored]
      exact ordered_store hr n _

theorem ordered_afterAll (hr : Ordered r) (h : r.Possible calls) : Ordered (r.afterAll calls) := by
  induction calls generalizing r with
  | nil => exact hr
  | cons c calls ih => exact ih (ordered_after hr h.1) h.2

/-! ## The search -/

/-- Where nothing but markers is stored, the search finds the first marker in the order. -/
theorem inheritedMark?_eq (h : ∀ n, r.contentAt n = (r.markOf? n).map .mark) (n : Nat) :
    r.inheritedMark? n = (r.orderAt n).findSome? r.markOf? := by
  change ((r.orderAt n).findSome? r.contentAt).bind Content.mark? = _
  induction r.orderAt n with
  | nil => rfl
  | cons k order ih =>
    rw [List.findSome?_cons, List.findSome?_cons, h k]
    cases r.markOf? k with
    | none => exact ih
    | some m => rfl

/-- The search finds the marker of the class itself or, if it has none, that of the first class among its ancestors
  that has one. -/
theorem inheritedMark?_afterAll (h : initial.Possible calls)
    (hn : n < (initial.afterAll calls).classes.length) :
    let r := initial.afterAll calls
    ∃ ancestors, r.orderAt n = n :: ancestors ∧ (∀ k ∈ ancestors, k < n) ∧
      r.inheritedMark? n = (r.markOf? n).or (ancestors.findSome? r.markOf?) := by
  obtain ⟨ancestors, horder, holder⟩ := (ordered_afterAll ordered_initial h).order n hn
  refine ⟨ancestors, horder, holder, ?_⟩
  rw [inheritedMark?_eq (contentAt_eq_mark h), horder, List.findSome?_cons]
  cases (initial.afterAll calls).markOf? n <;> rfl

/-- A new class with a marked base has no marker of its own, and the search finds one. -/
theorem heir_unmarked (h : initial.Possible calls) {name : String} {made : Registry}
    (hmake : (initial.afterAll calls).make name bases = .ok made) (hk : k ∈ bases)
    (hmarked : ((initial.afterAll calls).markOf? k).isSome) :
    let heir := (initial.afterAll calls).classes.length
    made.markOf? heir = none ∧ (made.inheritedMark? heir).isSome := by
  intro heir
  have hsame : ∀ n, made.markOf? n = (initial.afterAll calls).markOf? n := fun n => by
    rw [markOf?, markOf?, contentAt_make hmake]
  have hmarks : ∀ n, made.contentAt n = (made.markOf? n).map .mark := fun n => by
    rw [hsame, contentAt_make hmake, contentAt_eq_mark h]
  obtain ⟨ancestors, hancestors, rfl⟩ := make_eq_ok hmake
  refine ⟨?_, ?_⟩
  · simp [heir, markOf?, contentAt]
  · rw [inheritedMark?_eq hmarks, List.findSome?_isSome_iff]
    exact ⟨k, by simp [heir, orderAt, mem_ancestors hancestors hk], hsame k ▸ hmarked⟩

end Registry

end CrudQueries.Marking
