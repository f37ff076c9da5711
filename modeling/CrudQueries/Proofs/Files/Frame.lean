/-
  CrudQueries.Proofs.Files.Frame — what a change of the tree leaves alone.

  Making directories only adds directories where nothing was (`addsDirs_makeDirs`). Writing and
  replacing a file puts it at one place and changes nothing else (`replace_ok`, `write_ok`). So an
  entry that is there before a change and not at the place of it is there afterwards.
-/

import CrudQueries.Files.Change
import CrudQueries.Proofs.Data.Entries
import CrudQueries.Proofs.Files.Walks

namespace CrudQueries.Files.Tree

open CrudQueries.Data

variable {t t' u : Tree} {p q place : Location} {e : Entry}

/-! ## One entry -/

@[simp] theorem get?_nil (t : Tree) : t.get? [] = some .dir := rfl

theorem get?_of_ne_nil (t : Tree) (h : p ≠ []) : t.get? p = Entries.get? t.entries p := by
  simp [get?, h]

theorem get?_put_self (t : Tree) (h : place ≠ []) (e : Entry) : (t.put place e).get? place = some e := by
  simp [get?_of_ne_nil _ h, put, Entries.get?_put]

theorem get?_put_ne (t : Tree) (h : q ≠ place) (e : Entry) : (t.put place e).get? q = t.get? q := by
  by_cases hq : q = []
  · simp [hq]
  · simp [get?_of_ne_nil _ hq, put, Entries.get?_put, h]

theorem get?_remove (t : Tree) (place : Location) (h : q ≠ []) :
    (t.remove place).get? q = if place.isPrefixOf q then none else t.get? q := by
  rw [get?_of_ne_nil _ h, get?_of_ne_nil _ h]
  refine (Entries.get?_filter t.entries (fun p => !place.isPrefixOf p) q).trans ?_
  by_cases hp : place.isPrefixOf q = true
  · simp [hp]
  · simp [hp]

theorem get?_empty (t : Tree) (place : Location) (h : q ≠ []) :
    (t.empty place).get? q = if isBelow place q then none else t.get? q := by
  rw [get?_of_ne_nil _ h, get?_of_ne_nil _ h]
  refine (Entries.get?_filter t.entries (fun p => !isBelow place p) q).trans ?_
  by_cases hp : isBelow place q = true
  · simp [hp]
  · simp [hp]

/-! ## Paths -/

/-- A path is found where the walk along it ends, unless no file can have it. -/
theorem find_eq_ok {follow : Bool} {p : Path} {w : Place} :
    t.find follow p = .ok w ↔ hasNull p = false ∧ t.walk follow maxLinks (t.startOf p) p.parts = .ok w := by
  unfold find
  cases hasNull p with
  | true => simp
  | false =>
    rw [if_neg Bool.false_ne_true]
    cases t.walk follow maxLinks (t.startOf p) p.parts with
    | error cause => exact ⟨nofun, fun h => nomatch h.2⟩
    | ok place => exact ⟨fun h => ⟨rfl, congrArg _ (Except.ok.inj h)⟩, fun h => congrArg _ (Except.ok.inj h.2)⟩

theorem startOf_of_here (h : t'.here = t.here) (p : Path) : t'.startOf p = t.startOf p := by
  unfold startOf
  rw [h]

/-- Names without dots are taken one after the other. -/
theorem plainLocation_of_not_mem {names : List String} (hhere : "." ∉ names) (hup : ".." ∉ names) (start : Location) :
    plainLocation start names = start ++ names := by
  induction names generalizing start with
  | nil => exact (List.append_nil start).symm
  | cons name names ih =>
    rw [List.mem_cons, not_or] at hhere hup
    have hnames := ih hhere.2 hup.2 (start ++ [name])
    unfold plainLocation at hnames ⊢
    rw [List.foldl_cons, if_neg (by simpa using Ne.symm hhere.1), if_neg (by simpa using Ne.symm hup.1), hnames,
      List.append_assoc, List.singleton_append]

/-! ## Making directories -/

/-- `t'` is `t` with directories added where nothing was. -/
structure AddsDirs (t t' : Tree) : Prop where
  here : t'.here = t.here
  get? : ∀ q, t'.get? q = t.get? q ∨ (t.get? q = none ∧ t'.get? q = some .dir)

theorem AddsDirs.refl (t : Tree) : AddsDirs t t := ⟨rfl, fun _ => Or.inl rfl⟩

theorem AddsDirs.trans (h : AddsDirs t t') (h' : AddsDirs t' u) : AddsDirs t u := by
  refine ⟨h'.here.trans h.here, fun q => ?_⟩
  rcases h.get? q with hq | ⟨hn, hd⟩ <;> rcases h'.get? q with hq' | ⟨hn', hd'⟩
  · exact Or.inl (hq'.trans hq)
  · exact Or.inr ⟨hq ▸ hn', hd'⟩
  · exact Or.inr ⟨hn, hq'.trans hd⟩
  · exact Or.inr ⟨hn, hd'⟩

/-- What is there stays. -/
theorem AddsDirs.keeps (h : AddsDirs t t') (he : t.get? q = some e) : t'.get? q = some e := by
  rcases h.get? q with hq | ⟨hn, -⟩
  · rw [hq, he]
  · rw [hn] at he; cases he

theorem makeDir_ok {p : Path} (h : t.makeDir p = .ok t') : AddsDirs t t' := by
  unfold makeDir at h
  cases hf : t.find false p with
  | error e => simp [hf, bind, Except.bind] at h
  | ok found =>
    cases found with
    | found place entry => simp [hf, bind, Except.bind] at h
    | missing parent name =>
      simp only [hf, bind, Except.bind, Except.ok.injEq] at h
      subst h
      refine ⟨rfl, fun q => ?_⟩
      by_cases hq : q = parent ++ [name]
      · subst hq
        exact Or.inr ⟨walk_missing (find_eq_ok.mp hf).2, get?_put_self t (by simp) _⟩
      · exact Or.inl (get?_put_ne t hq _)

@[simp] theorem unlessDir_tree (t : Tree) (p : Path) (e : Trouble) : (t.unlessDir p e).tree = t := by
  unfold unlessDir
  repeat' split
  all_goals rfl

theorem addsDirs_makeDirsAt (root : String) (parts : List String) (t : Tree) :
    AddsDirs t (t.makeDirsAt root parts).tree := by
  induction parts generalizing t with
  | nil =>
    rw [makeDirsAt]
    split
    · rename_i h; exact makeDir_ok h
    · rw [unlessDir_tree]; exact AddsDirs.refl t
  | cons part parts ih =>
    rw [makeDirsAt]
    split
    · rename_i h; exact makeDir_ok h
    · split
      · simp only
        split
        · exact ih t
        · split
          · rename_i h; exact (ih t).trans (makeDir_ok h)
          · rw [unlessDir_tree]; exact ih t
      · rw [unlessDir_tree]; exact AddsDirs.refl t

theorem addsDirs_makeDirs (t : Tree) (p : Path) : AddsDirs t (t.makeDirs p).tree :=
  addsDirs_makeDirsAt p.root p.parts.reverse t

/-! ## Writing files -/

/-- Where a file goes that is written or replaced at a path. -/
def destination? (t : Tree) (follow : Bool) (p : Path) : Option Location :=
  match t.walk follow maxLinks (t.startOf p) p.parts with
  | .ok (.missing parent name) => some (parent ++ [name])
  | .ok (.found place _) => some place
  | .error _ => none

/-- A file that is replaced comes where its path misses a name, or takes the place of a file or link. -/
theorem replace_cases {p : Path} {bytes : ByteArray} (h : t.replace p bytes = .ok t') :
    hasNull p = false ∧
      ((∃ parent name, t.walk false maxLinks (t.startOf p) p.parts = .ok (.missing parent name) ∧
        t' = t.put (parent ++ [name]) (.file bytes)) ∨
      ∃ place e, t.walk false maxLinks (t.startOf p) p.parts = .ok (.found place e) ∧ e ≠ .dir ∧
        t' = t.put place (.file bytes)) := by
  unfold replace at h
  by_cases hn : hasNull p = true
  · simp [hn] at h
  cases ht : t.temporaryTrouble? (t.temporaryDir p) p.name
      ((t.temporaryDir p).join ⟨"", [temporaryName p.name]⟩).text with
  | some e => simp [hn, ht] at h
  | none =>
    refine ⟨by simpa using hn, ?_⟩
    simp only [hn, ht, Bool.false_eq_true, if_false] at h
    cases hw : t.walk false maxLinks (t.startOf p) p.parts with
    | error cause => simp [hw] at h
    | ok found =>
      cases found with
      | missing parent name =>
        simp only [hw, Except.ok.injEq] at h
        exact Or.inl ⟨parent, name, rfl, h.symm⟩
      | found place entry =>
        by_cases hb : (p.name.isEmpty || p.name == "..") = true
        · simp [hw, hb] at h
        simp only [hw, hb, Bool.false_eq_true, if_false] at h
        refine Or.inr ⟨place, entry, rfl, ?_⟩
        cases entry with
        | dir => cases h
        | file old => exact ⟨by simp, (Except.ok.inj h).symm⟩
        | link target => exact ⟨by simp, (Except.ok.inj h).symm⟩

/-- Replacing a file puts it at one place, which is not the root. -/
theorem replace_ok {p : Path} {bytes : ByteArray} (h : t.replace p bytes = .ok t') :
    ∃ place, t.destination? false p = some place ∧ place ≠ [] ∧ t' = t.put place (.file bytes) := by
  rcases (replace_cases h).2 with ⟨parent, name, hw, ht⟩ | ⟨place, e, hw, he, ht⟩
  · exact ⟨parent ++ [name], by rw [destination?, hw], by simp, ht⟩
  · exact ⟨place, by rw [destination?, hw], ((walk_found hw).resolve_left he).1, ht⟩

/-- Writing a file in place puts it at one place too. -/
theorem write_ok {p : Path} {bytes : ByteArray} (h : t.write p bytes = .ok t') :
    ∃ place, t.destination? true p = some place ∧ place ≠ [] ∧ t' = t.put place (.file bytes) := by
  unfold write at h
  cases hf : t.find true p with
  | error e => simp [hf, bind, Except.bind] at h
  | ok found =>
    have hw := (find_eq_ok.mp hf).2
    cases found with
    | missing parent name =>
      simp only [hf, bind, Except.bind, Except.ok.injEq] at h
      exact ⟨parent ++ [name], by rw [destination?, hw], by simp, h.symm⟩
    | found place entry =>
      cases entry with
      | file old =>
        simp only [hf, bind, Except.bind, Except.ok.injEq] at h
        obtain ⟨hne, -⟩ := (walk_found hw).resolve_left (by simp)
        exact ⟨place, by rw [destination?, hw], hne, h.symm⟩
      | dir => simp [hf, bind, Except.bind] at h
      | link target => simp [hf, bind, Except.bind] at h

end CrudQueries.Files.Tree
