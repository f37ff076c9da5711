/-
  CrudQueries.Proofs.Marking.FirstMark — the first marker put on a class is its marker.

  Classes are made and markers are put on classes and on other things, in any order (`Call`, `afterAll`). A call is
  about classes that there are by then (`Possible`). What it leaves in the marker's place of a class is what lay there
  before or, where nothing lay, the marker that it puts on that very class (`contentAt_after`); so after any number of
  calls a class has the first marker that was put on it (`contentAt_afterAll`). Which classes are its bases counts for
  nothing. Making and marking classes by name comes to possible calls (`create_eq_after`, `mark_eq_after`).

  From this it follows what every next call does (`marks_settled`): a marker for a thing that is no class or for a
  class that has one is refused and changes nothing; any other is put on its class, which is given back, and on no
  other. The root of all classes never has a marker.
-/

import CrudQueries.Marking.Registry

namespace CrudQueries.Marking

/-- A class is made, or a marker is put on something. -/
inductive Call where
  | make (name : String) (bases : List Nat)
  | apply (m : Mark) (subject : Subject)

namespace Call

/-- The classes that a call is about. -/
def classes : Call → List Nat
  | make _ bases => bases
  | apply _ (.classAt n) => [n]
  | apply _ (.other _) => []

/-- The marker that a call is to put on a class itself. -/
def markFor? (n : Nat) : Call → Option Mark
  | apply m (.classAt k) => if k = n then some m else none
  | _ => none

end Call

/-- The marker that the first call for a class is to put on it. -/
def firstMark? (n : Nat) (calls : List Call) : Option Mark := calls.findSome? (Call.markFor? n)

namespace Registry

variable {r : Registry} {m : Mark} {n k : Nat} {c : Call} {calls : List Call}

/-- What a call gives: the registry after it, and the class that was made or marked. -/
def answer (r : Registry) : Call → Except MarkError (Registry × Subject)
  | .make name bases => (r.make name bases).map fun made => (made, .classAt r.classes.length)
  | .apply m subject => r.apply m subject

/-- The registry after a call: as it was if the call fails. -/
def after (r : Registry) (c : Call) : Registry :=
  match r.answer c with
  | .ok (changed, _) => changed
  | .error _ => r

def afterAll (r : Registry) (calls : List Call) : Registry := calls.foldl after r

/-- Are there the classes that a call is about? -/
def Has (r : Registry) (c : Call) : Prop := ∀ n ∈ c.classes, n < r.classes.length

instance : Decidable (r.Has c) := inferInstanceAs (Decidable (∀ n ∈ c.classes, n < r.classes.length))

/-- Is each call about classes that there are by then? -/
def Possible (r : Registry) : List Call → Prop
  | [] => True
  | c :: calls => r.Has c ∧ (r.after c).Possible calls

instance decidablePossible : (r : Registry) → (calls : List Call) → Decidable (r.Possible calls)
  | _, [] => isTrue trivial
  | r, c :: calls =>
    have := decidablePossible (r.after c) calls
    inferInstanceAs (Decidable (r.Has c ∧ (r.after c).Possible calls))

/-- Does a call fail, with an error about kinds, and leave all classes as they were? -/
def Refuses (r : Registry) (c : Call) (e : MarkError) : Prop :=
  r.answer c = .error e ∧ e.kind = "TypeError" ∧ r.after c = r

/-- Is a marker put on a class, which is given back, and on no other? -/
def Marks (r : Registry) (m : Mark) (n : Nat) : Prop :=
  let marked := r.after (.apply m (.classAt n))
  r.answer (.apply m (.classAt n)) = .ok (marked, .classAt n) ∧ marked.markOf? n = some m ∧
    ∀ k, k ≠ n → marked.markOf? k = r.markOf? k

/-! ## One call -/

theorem after_of_error {e : MarkError} (h : r.answer c = .error e) : r.after c = r := by
  rw [after, h]

theorem after_of_ok {changed : Registry} {s : Subject} (h : r.answer c = .ok (changed, s)) : r.after c = changed := by
  rw [after, h]

/-- A class is made behind the others, with nothing in the marker's place. -/
theorem make_eq_ok {name : String} {bases : List Nat} {made : Registry} (h : r.make name bases = .ok made) :
    ∃ ancestors, r.ancestors bases = .ok ancestors ∧
      made = ⟨r.classes ++ [⟨name, r.classes.length :: ancestors, none⟩]⟩ := by
  unfold make at h
  cases hancestors : r.ancestors bases with
  | error e => rw [hancestors] at h; cases h
  | ok ancestors =>
    rw [hancestors] at h
    cases h
    exact ⟨ancestors, rfl, rfl⟩

theorem contentAt_make {name : String} {bases : List Nat} {made : Registry} (h : r.make name bases = .ok made)
    (n : Nat) : made.contentAt n = r.contentAt n := by
  obtain ⟨ancestors, -, rfl⟩ := make_eq_ok h
  unfold contentAt
  rcases Nat.lt_or_ge n r.classes.length with hlt | hge
  · rw [List.getElem?_append_left hlt]
  · rw [List.getElem?_append_right hge, List.getElem?_eq_none hge, List.getElem?_singleton]
    split <;> rfl

theorem contentAt_store_self (h : n < r.classes.length) (content : Content) :
    (r.store n content).contentAt n = some content := by
  simp [contentAt, store, h]

theorem contentAt_store_ne (h : k ≠ n) (content : Content) : (r.store n content).contentAt k = r.contentAt k := by
  simp [contentAt, store, h.symm]

theorem answer_marked {content : Content} (h : r.contentAt n = some content) :
    r.answer (.apply m (.classAt n)) = .error (.again m.markerName (r.nameAt n)) := by
  simp only [answer, apply, h]

theorem answer_root (h : r.contentAt root = none) :
    r.answer (.apply m (.classAt root)) = .error (.closed (r.nameAt root)) := by
  simp only [answer, apply, h, assign, if_true, Except.map]

theorem answer_unmarked (hroot : n ≠ root) (h : r.contentAt n = none) :
    r.answer (.apply m (.classAt n)) = .ok (r.store n (.mark m), .classAt n) := by
  simp only [answer, apply, h, assign, if_neg hroot, Except.map]

theorem refuses_marked {content : Content} (h : r.contentAt n = some content) :
    r.Refuses (.apply m (.classAt n)) (.again m.markerName (r.nameAt n)) :=
  ⟨answer_marked h, rfl, after_of_error (answer_marked h)⟩

theorem refuses_root (h : r.contentAt root = none) : r.Refuses (.apply m (.classAt root)) (.closed (r.nameAt root)) :=
  ⟨answer_root h, rfl, after_of_error (answer_root h)⟩

/-- Whatever its bases are, a class is made without touching what lies on the others. -/
theorem contentAt_after_make (name : String) (bases : List Nat) (n : Nat) :
    (r.after (.make name bases)).contentAt n = r.contentAt n := by
  cases h : r.make name bases with
  | error e => rw [after_of_error (by rw [answer, h]; rfl)]
  | ok made => rw [after_of_ok (by rw [answer, h]; rfl), contentAt_make h]

/-- Putting a marker on something changes nothing, or it is put on a class that has nothing in the marker's place. -/
theorem after_apply (r : Registry) (m : Mark) (subject : Subject) :
    r.after (.apply m subject) = r ∨
      ∃ n, subject = .classAt n ∧ n ≠ root ∧ r.after (.apply m subject) = r.store n (.mark m) := by
  cases subject with
  | other kind => exact .inl rfl
  | classAt n =>
    cases h : r.contentAt n with
    | some content => exact .inl (refuses_marked h).2.2
    | none =>
      by_cases hroot : n = root
      · subst hroot
        exact .inl (refuses_root h).2.2
      · exact .inr ⟨n, rfl, hroot, after_of_ok (answer_unmarked hroot h)⟩

/-- A marker for a class leaves what lies on every other class, whether it is put there or refused. -/
theorem contentAt_after_ne (h : n ≠ k) : (r.after (.apply m (.classAt k))).contentAt n = r.contentAt n := by
  rcases after_apply r m (.classAt k) with hsame | ⟨_, hk, -, hstored⟩
  · rw [hsame]
  · cases hk
    rw [hstored, contentAt_store_ne h]

theorem contentAt_root_after (c : Call) : (r.after c).contentAt root = r.contentAt root := by
  cases c with
  | make name bases => exact contentAt_after_make name bases root
  | apply m subject =>
    rcases after_apply r m subject with hsame | ⟨n, -, hroot, hstored⟩
    · rw [hsame]
    · rw [hstored, contentAt_store_ne hroot.symm]

theorem marks_unmarked (hn : n < r.classes.length) (hroot : n ≠ root) (h : r.contentAt n = none) : r.Marks m n := by
  have hmarked : r.after (.apply m (.classAt n)) = r.store n (.mark m) := after_of_ok (answer_unmarked hroot h)
  refine ⟨by rw [answer_unmarked hroot h, hmarked], ?_, fun k hk => ?_⟩
  · rw [hmarked, markOf?, contentAt_store_self hn, Option.bind_some, Content.mark?]
  · rw [markOf?, markOf?, contentAt_after_ne hk]

/-- What lies in the marker's place of a class stays there, and where nothing lies the marker is put that is for
  that very class. -/
theorem contentAt_after (hhas : r.Has c) (hroot : n ≠ root) :
    (r.after c).contentAt n = (r.contentAt n).or ((c.markFor? n).map .mark) := by
  cases c with
  | make name bases => exact (contentAt_after_make name bases n).trans Option.or_none.symm
  | apply m subject =>
    cases subject with
    | other kind => exact Option.or_none.symm
    | classAt k =>
      rw [Call.markFor?]
      by_cases hk : k = n
      · subst hk
        rw [if_pos rfl, Option.map_some]
        cases h : r.contentAt k with
        | some content => rw [(refuses_marked h).2.2, h, Option.some_or]
        | none =>
          -- Only on a class that is there can a marker be found again.
          rw [after_of_ok (answer_unmarked hroot h), contentAt_store_self (hhas k (List.mem_singleton.mpr rfl)),
            Option.none_or]
      · rw [if_neg hk, Option.map_none, Option.or_none, contentAt_after_ne (Ne.symm hk)]

/-! ## Any number of calls -/

theorem firstMark?_cons (n : Nat) (c : Call) (calls : List Call) :
    firstMark? n (c :: calls) = (c.markFor? n).or (firstMark? n calls) := by
  rw [firstMark?, List.findSome?_cons]
  cases c.markFor? n <;> rfl

theorem contentAt_afterAll (h : r.Possible calls) (hroot : n ≠ root) :
    (r.afterAll calls).contentAt n = (r.contentAt n).or ((firstMark? n calls).map .mark) := by
  induction calls generalizing r with
  | nil => exact Option.or_none.symm
  | cons c calls ih =>
    calc ((r.after c).afterAll calls).contentAt n
        = ((r.after c).contentAt n).or ((firstMark? n calls).map .mark) := ih h.2
      _ = (r.contentAt n).or (((c.markFor? n).or (firstMark? n calls)).map .mark) := by
          rw [contentAt_after h.1 hroot, Option.or_assoc, Option.map_or]
      _ = (r.contentAt n).or ((firstMark? n (c :: calls)).map .mark) := by rw [firstMark?_cons]

theorem contentAt_root_afterAll (r : Registry) (calls : List Call) :
    (r.afterAll calls).contentAt root = r.contentAt root := by
  induction calls generalizing r with
  | nil => rfl
  | cons c calls ih => exact (ih (r.after c)).trans (contentAt_root_after c)

theorem contentAt_initial : (n : Nat) → initial.contentAt n = none
  | 0 => rfl
  | 1 => rfl
  | _ + 2 => rfl

/-! ## By name -/

/-- A name stands for a class that there is. -/
theorem lt_of_require {name : String} (h : r.require name = .ok n) : n < r.classes.length := by
  unfold require at h
  split at h
  · rename_i p hp
    cases h
    obtain ⟨i, hi, rfl⟩ := Option.map_eq_some_iff.mp hp
    have hlt := (List.findIdx?_eq_some_iff_getElem.mp hi).1
    rw [List.length_reverse] at hlt
    omega
  · cases h

theorem lt_of_mapM_require {names : List String} {bases : List Nat} (h : names.mapM r.require = .ok bases) :
    ∀ n ∈ bases, n < r.classes.length := by
  induction names generalizing bases with
  | nil =>
    cases h
    exact List.forall_mem_nil _
  | cons name names ih =>
    rw [List.mapM_cons] at h
    cases hfirst : r.require name with
    | error e => rw [hfirst] at h; cases h
    | ok first =>
      cases hrest : names.mapM r.require with
      | error e => rw [hfirst, hrest] at h; cases h
      | ok rest =>
        rw [hfirst, hrest] at h
        cases h
        exact List.forall_mem_cons.mpr ⟨lt_of_require hfirst, ih hrest⟩

/-- Making a class by the names of its bases is a possible call. -/
theorem create_eq_after {name : String} {baseNames : List String} {made : Registry}
    (h : r.create name baseNames = .ok made) : ∃ bases, r.Has (.make name bases) ∧ r.after (.make name bases) = made := by
  cases hbases : baseNames.mapM r.require with
  | error e => rw [create, hbases] at h; cases h
  | ok bases =>
    rw [create, hbases] at h
    change r.make name bases = .ok made at h
    exact ⟨bases, lt_of_mapM_require hbases, after_of_ok (by rw [answer, h]; rfl)⟩

/-- Marking a class by its name is a possible call. -/
theorem mark_eq_after {name : String} {marked : Registry} (h : r.mark name m = .ok marked) :
    ∃ n, r.Has (.apply m (.classAt n)) ∧ r.after (.apply m (.classAt n)) = marked := by
  cases hn : r.require name with
  | error e => rw [mark, hn] at h; cases h
  | ok n =>
    rw [mark, hn] at h
    change (r.apply m (.classAt n) >>= fun changed => pure changed.1) = .ok marked at h
    refine ⟨n, fun k hk => List.mem_singleton.mp hk ▸ lt_of_require hn, ?_⟩
    cases happly : r.apply m (.classAt n) with
    | error e => rw [happly] at h; cases h
    | ok changed =>
      rw [happly] at h
      cases h
      exact after_of_ok happly

/-! ## From the beginning -/

theorem markOf?_root (calls : List Call) : (initial.afterAll calls).markOf? root = none := by
  rw [markOf?, contentAt_root_afterAll, contentAt_initial, Option.bind_none]

/-- The marker of a class is the first that was put on it. -/
theorem markOf?_afterAll (h : initial.Possible calls) (hroot : n ≠ root) :
    (initial.afterAll calls).markOf? n = firstMark? n calls := by
  rw [markOf?, contentAt_afterAll h hroot, contentAt_initial, Option.none_or]
  cases firstMark? n calls <;> rfl

/-- In the marker's place of a class lies a marker, if anything. -/
theorem contentAt_eq_mark (h : initial.Possible calls) (n : Nat) :
    (initial.afterAll calls).contentAt n = ((initial.afterAll calls).markOf? n).map .mark := by
  by_cases hroot : n = root
  · subst hroot
    rw [markOf?_root, contentAt_root_afterAll, contentAt_initial, Option.map_none]
  · rw [markOf?_afterAll h hroot, contentAt_afterAll h hroot, contentAt_initial, Option.none_or]

/-- After any calls, a class has the first marker that was put on it, and the root has none. Of the next call,
  whatever it is: making a class, with whichever bases, leaves all markers as they are and puts none on the class; a
  marker for a thing that is no class, for a class that has one or for the root is refused and changes nothing; any
  other is put on its class, which is given back, and on no other class. -/
theorem marks_settled (h : initial.Possible calls) :
    let r := initial.afterAll calls
    (∀ n, r.markOf? n = if n = root then none else firstMark? n calls) ∧
      (∀ (name : String) (bases : List Nat) (n : Nat), (r.after (.make name bases)).markOf? n = r.markOf? n) ∧
      (∀ (m : Mark) (kind : String), r.Refuses (.apply m (.other kind)) (.notClass m.markerName kind)) ∧
      (∀ (m : Mark) (n : Nat), (r.markOf? n).isSome →
        r.Refuses (.apply m (.classAt n)) (.again m.markerName (r.nameAt n))) ∧
      (∀ m : Mark, r.Refuses (.apply m (.classAt root)) (.closed (r.nameAt root))) ∧
      (∀ (m : Mark) (n : Nat), n < r.classes.length → n ≠ root → r.markOf? n = none → r.Marks m n) := by
  intro r
  have hcontent : ∀ n, r.contentAt n = (r.markOf? n).map .mark := contentAt_eq_mark h
  have hnone : ∀ n, r.markOf? n = none → r.contentAt n = none := fun n hn => by rw [hcontent, hn, Option.map_none]
  refine ⟨fun n => ?_, fun name bases n => ?_, fun m kind => ⟨rfl, rfl, rfl⟩, fun m n hmarked => ?_,
    fun m => refuses_root (hnone root (markOf?_root calls)),
    fun m n hn hroot hmark => marks_unmarked hn hroot (hnone n hmark)⟩
  · split
    · subst n
      exact markOf?_root calls
    · exact markOf?_afterAll h ‹n ≠ root›
  · rw [markOf?, markOf?, contentAt_after_make]
  · obtain ⟨first, hfirst⟩ := Option.isSome_iff_exists.mp hmarked
    have hplaced : r.contentAt n = some (.mark first) := by rw [hcontent, hfirst, Option.map_some]
    exact refuses_marked hplaced

/-- A marked class with two classes that inherit from it, of which one is marked too. Another marker is tried on the
  first class, and one on a function. -/
def heirCalls : List Call :=
  [.make "Base" [], .apply { fields := [.text "name"] } (.classAt 2), .make "Plain" [2], .make "Marked" [2],
    .apply { fields := [.text "price", .text "name"] } (.classAt 4), .apply { fields := [] } (.classAt 2),
    .apply { fields := [] } (.other "function")]

theorem marks_settled_heirs : initial.Possible heirCalls ∧
    (initial.afterAll heirCalls).markOf? 2 = some { fields := [.text "name"] } ∧
    (initial.afterAll heirCalls).markOf? 3 = none ∧
    (initial.afterAll heirCalls).markOf? 4 = some { fields := [.text "price", .text "name"] } ∧
    (initial.afterAll heirCalls).Refuses (.apply { fields := [] } (.classAt 2)) (.again "QueryFields" "Base") :=
  have h : initial.Possible heirCalls := by decide
  have hmarks := (marks_settled h).1
  have hrefused := (marks_settled h).2.2.2.1 { fields := [] } 2 (Option.isSome_iff_exists.mpr ⟨_, hmarks 2⟩)
  ⟨h, hmarks 2, hmarks 3, hmarks 4, hrefused⟩

end Registry

end CrudQueries.Marking
