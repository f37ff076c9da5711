/-
  CrudQueries.Proofs.Export.Again — the same export once more.

  A first export leaves a tree `u`. A second one starts there and meets, step by step, trees that have all that the
  first one met and nothing that `u` has not (`Repeats`). So the directories that the first one made are there, no
  file stands on a way that was free, and each step comes to the same (`makeDirs_again`, `writeFile_again`): the
  second export leaves what the first one left (`run_again`).

  One thing differs. If a directory on the way of a file has too long a name the first run may make those before it
  and names the first that it cannot make, while the second finds these and names the directory of the file
  (`Alike.named`).
-/

import CrudQueries.Proofs.Export.EachFile
import CrudQueries.Proofs.Files.Cleared
import Mathlib.Data.List.Forall2

namespace CrudQueries.Export

open CrudQueries.Files (IsName Location Path Tree Trouble)
open CrudQueries.Files.Tree (AddsDirs DirsAlong IsFileAt Plain TooLong clear_dir clear_untouched madeAlong_makeDirs
  dirsAlong_of_trouble fits get?_put_ne get?_put_self isFileAt_join isPrefix_lead lead_isPrefix makeDirs_blocked
  replace_leads replace_plain shrinks_clear)

variable {t m s u : Tree} {options : Options} {output out : Path} {files : List (String × String)} {path : String}
  {place names : Location} {name root : String} {told : String → Prop}

/-! ## What stays -/

/-- What is a directory or a file in `t` is one in `u`. -/
structure Kept (t u : Tree) : Prop where
  here : u.here = t.here
  dirs : ∀ q, t.get? q = some .dir → u.get? q = some .dir
  files : ∀ q bytes, t.get? q = some (.file bytes) → ∃ bytes', u.get? q = some (.file bytes')

theorem Kept.refl (t : Tree) : Kept t t := ⟨rfl, fun _ h => h, fun _ bytes h => ⟨bytes, h⟩⟩

theorem Kept.trans (h : Kept t s) (h' : Kept s u) : Kept t u := by
  refine ⟨h'.here.trans h.here, fun q hq => h'.dirs q (h.dirs q hq), fun q bytes hq => ?_⟩
  obtain ⟨_, hq⟩ := h.files q bytes hq
  exact h'.files q _ hq

theorem Kept.of_puts {ps : List Placement} (h : Puts t u ps) : Kept t u := by
  refine ⟨h.here, h.dirs, fun q bytes hq => ?_⟩
  cases hl : lastAt ps q with
  | some last => exact ⟨last, h.placed q last hl⟩
  | none =>
    rcases h.untouched q hl with hsame | ⟨hnone, -⟩
    · exact ⟨bytes, hsame.trans hq⟩
    · rw [hq] at hnone
      cases hnone

theorem Kept.of_addsDirs (h : AddsDirs t u) : Kept t u :=
  ⟨h.here, fun _ hq => h.keeps hq, fun _ bytes hq => ⟨bytes, h.keeps hq⟩⟩

/-- Directories that `u` has too may be added. -/
theorem Kept.dirsAlong (h : Kept t u) {t' : Tree} (hdirs : DirsAlong t t' names)
    (hon : ∀ q, q <+: names → u.get? q = some .dir) : Kept t' u := by
  refine ⟨h.here.trans hdirs.here.symm, fun q hq => ?_, fun q bytes hq => ?_⟩
  · by_cases hway : q <+: names
    · exact hon q hway
    · rw [hdirs.off q hway] at hq
      exact h.dirs q hq
  · by_cases hway : q <+: names
    · rw [hdirs.on q hway] at hq
      cases hq
    · rw [hdirs.off q hway] at hq
      exact h.files q bytes hq

/-- A file may be put where there is one at the end, and nothing else has changed. -/
theorem Kept.put (h : Kept t u) {u' : Tree} (hplace : place ≠ []) (bytes : ByteArray) (hhere : u'.here = u.here)
    (hother : ∀ q, q ≠ place → u'.get? q = u.get? q) (hfile : ∃ bytes', u'.get? place = some (.file bytes')) :
    Kept (t.put place (.file bytes)) u' := by
  refine ⟨hhere.trans h.here, fun q hq => ?_, fun q old hq => ?_⟩
  · by_cases hne : q = place
    · rw [hne, get?_put_self t hplace] at hq
      cases hq
    · rw [get?_put_ne t hne] at hq
      rw [hother q hne, h.dirs q hq]
  · by_cases hne : q = place
    · rwa [hne]
    · rw [get?_put_ne t hne] at hq
      rw [hother q hne]
      exact h.files q old hq

/-- Nothing is gone from a tree without links. -/
theorem Kept.some (h : Kept t u) (hp : t.Plain) {q : Location} {e : Files.Entry} (he : t.get? q = some e) :
    ∃ e', u.get? q = some e' := by
  cases e with
  | dir => exact ⟨_, h.dirs q he⟩
  | file bytes =>
    obtain ⟨_, hu⟩ := h.files q bytes he
    exact ⟨_, hu⟩
  | link target => exact absurd he (hp.noLinks _ _)

/-- On the way to `u`, `m` is met by the first run and `s` by the second. -/
structure Repeats (m s u : Tree) : Prop where
  first : m.Plain
  second : s.Plain
  kept : Kept m s
  left : Kept s u
  bytes : ∀ q e, s.get? q = some e → u.get? q = some e ∨ m.get? q = some e

/-- When the first run has come to its end the second has too. -/
theorem Repeats.same (h : Repeats u s u) : s.here = u.here ∧ ∀ q, s.get? q = u.get? q := by
  refine ⟨h.kept.here, fun q => ?_⟩
  cases hs : s.get? q with
  | some e => exact ((h.bytes q e hs).elim id id).symm
  | none =>
    cases hu : u.get? q with
    | none => rfl
    | some e =>
      obtain ⟨e', he⟩ := h.kept.some h.first hu
      rw [hs] at he
      cases he

/-- Both runs make the same directories. -/
theorem Repeats.dirsAlong (h : Repeats m s u) {m' s' : Tree} (hm : DirsAlong m m' names) (hs : DirsAlong s s' names)
    (hn : ∀ n ∈ names, IsName n ∧ fits n = true) (hu : Kept m' u) : Repeats m' s' u where
  first := h.first.dirsAlong hm hn
  second := h.second.dirsAlong hs hn
  kept := (h.kept.trans (.of_addsDirs hs.toAddsDirs)).dirsAlong hm hs.on
  left := h.left.dirsAlong hs fun q hq => hu.dirs q (hm.on q hq)
  bytes q e hq := by
    by_cases hon : q <+: names
    · rw [hs.on q hon] at hq
      exact .inr (by rw [hm.on q hon, hq])
    · rw [hs.off q hon] at hq
      rw [hm.off q hon]
      exact h.bytes q e hq

/-- Both runs put the same bytes at a place. -/
theorem Repeats.put (h : Repeats m s u) {bytes : ByteArray} (hu : Kept (m.put (place ++ [name]) (.file bytes)) u)
    (hm : (m.put (place ++ [name]) (.file bytes)).Plain) (hs : (s.put (place ++ [name]) (.file bytes)).Plain) :
    Repeats (m.put (place ++ [name]) (.file bytes)) (s.put (place ++ [name]) (.file bytes)) u where
  first := hm
  second := hs
  kept := h.kept.put (by simp) bytes rfl (fun q hne => get?_put_ne s hne _) ⟨bytes, get?_put_self s (by simp) _⟩
  left := h.left.put (by simp) bytes rfl (fun _ _ => rfl) (hu.files _ bytes (get?_put_self m (by simp) _))
  bytes q e hq := by
    by_cases hne : q = place ++ [name]
    · rw [hne, get?_put_self _ (by simp)] at hq ⊢
      exact .inr hq
    · rw [get?_put_ne _ hne] at hq ⊢
      exact h.bytes q e hq

/-! ## Troubles -/

/-- Two troubles are the same, or both are of too long a name and tell one of these paths. -/
inductive Alike (told : String → Prop) : Trouble → Trouble → Prop where
  | same (e : Trouble) : Alike told e e
  | named {p q : String} (hp : told p) (hq : told q) : Alike told (.onPath .nameTooLong p) (.onPath .nameTooLong q)

theorem eq_none_of_rel {α : Type} {r : α → α → Prop} {o : Option α} (h : Option.Rel r none o) : o = none := by
  cases h
  rfl

/-- Directories are made in the second run as in the first. -/
theorem makeDirs_again (h : Repeats m s u) (hroot : root ≠ "") (hn : ∀ n ∈ names, IsName n)
    (hu : Kept (m.makeDirs ⟨root, names⟩).tree u) (htold : ∀ p, TooLong root names p → told p) :
    Repeats (m.makeDirs ⟨root, names⟩).tree (s.makeDirs ⟨root, names⟩).tree u ∧
      Option.Rel (Alike told) (m.makeDirs ⟨root, names⟩).trouble (s.makeDirs ⟨root, names⟩).trouble := by
  by_cases hb : m.Blocked names
  · obtain ⟨place, bytes, ⟨rest, rfl⟩, hfile⟩ := hb
    obtain ⟨bytes', hfile'⟩ := h.kept.files place bytes hfile
    rw [makeDirs_blocked h.first.toWellFormed hroot hn hfile, makeDirs_blocked h.second.toWellFormed hroot hn hfile']
    exact ⟨h, .some (.same _)⟩
  · obtain ⟨hdirs, hnone, hsome⟩ := madeAlong_makeDirs h.first.toWellFormed hroot (h.first.way names) hn hb
    -- A file on the way would be in `u` too, but there the first run has left a directory.
    have hb' : ¬ s.Blocked names := by
      rintro ⟨place, bytes, hway, hfile⟩
      obtain ⟨bytes', hleft⟩ := h.left.files place bytes hfile
      have hlead := isPrefix_lead hway fun n hm => (h.second.fits_of_get? hfile n hm).2
      rw [hu.dirs place (hdirs.on place hlead)] at hleft
      cases hleft
    obtain ⟨hdirs', hnone', hsome'⟩ := madeAlong_makeDirs h.second.toWellFormed hroot (h.second.way names) hn hb'
    refine ⟨h.dirsAlong hdirs hdirs' (fun n hm => ⟨hn n ((lead_isPrefix names).subset hm), Tree.fits_of_mem_lead hm⟩) hu, ?_⟩
    by_cases hfits : ∀ n ∈ names, fits n = true
    · rw [hnone hfits, hnone' hfits]
      exact .none
    · obtain ⟨p, hp, hfirst⟩ := hsome hfits
      obtain ⟨q, hq, hsecond⟩ := hsome' hfits
      rw [hfirst, hsecond]
      exact .some (.named (htold p hp) (htold q hq))

/-! ## Files -/

/-- A file comes to the same in two runs. -/
inductive Written.Alike (told : String → Prop) : Written → Written → Prop where
  | written (path : String) (record : FileRecord) : Alike told ⟨path, .ok record⟩ ⟨path, .ok record⟩
  | failed (path : String) {e e' : Trouble} (h : Export.Alike told e e') : Alike told ⟨path, .error e⟩ ⟨path, .error e'⟩

/-- The directories that were made for a file stay. -/
theorem kept_made (ha : options.atomic = true) (t : Tree) (output : Path) (path content : String) :
    Kept (t.makeDirs (output.join (Path.ofText path)).parent).tree (writeFile t options output path content).1 := by
  cases hm : (t.makeDirs (output.join (Path.ofText path)).parent).trouble with
  | some e =>
    rw [writeFile_of_trouble content options hm]
    exact Kept.refl _
  | none =>
    rw [writeFile_of_replace content ha (show t.makeDirs _ = ⟨_, none⟩ by rw [← hm])]
    cases hr : (t.makeDirs (output.join (Path.ofText path)).parent).tree.replace (output.join (Path.ofText path))
        (Text.Utf8.encode content) with
    | error e => exact Kept.refl _
    | ok done =>
      obtain ⟨w, -, -, hnodir, -, rfl⟩ := replace_leads hr
      exact Kept.of_puts (puts_put hnodir _)

/-- A file is replaced in the second run as in the first. -/
theorem replace_again {p : Path} {bytes : ByteArray} (h : Repeats m s u) (hf : IsFileAt p place name)
    (hdir : m.get? place = some .dir) (hu : ∀ done, m.replace p bytes = .ok done → Kept done u) :
    (∃ e, m.replace p bytes = .error e ∧ s.replace p bytes = .error e) ∨
      ∃ done done', m.replace p bytes = .ok done ∧ s.replace p bytes = .ok done' ∧ Repeats done done' u := by
  have hdir' := h.kept.dirs _ hdir
  rw [replace_plain h.first.toWellFormed hf hdir] at hu ⊢
  rw [replace_plain h.second.toWellFormed hf hdir']
  by_cases hlarge : Tree.temporaryNameSize name > Files.maxNameSize
  · simp only [if_pos hlarge]
    exact .inl ⟨_, rfl, rfl⟩
  simp only [if_neg hlarge] at hu ⊢
  by_cases htaken : m.get? (place ++ [name]) = some .dir
  · simp only [if_pos htaken, if_pos (h.kept.dirs _ htaken)]
    exact .inl ⟨_, rfl, rfl⟩
  have hleft : Kept (m.put (place ++ [name]) (.file bytes)) u := hu _ (if_neg htaken)
  -- Where the first run has put the file the second can meet no directory.
  have htaken' : s.get? (place ++ [name]) ≠ some .dir := by
    intro hd
    obtain ⟨bytes, hfile⟩ := hleft.files _ _ (get?_put_self m (by simp) _)
    rw [h.left.dirs _ hd] at hfile
    cases hfile
  have hfits : fits name = true := Tree.fits_of_temporaryNameSize hlarge
  rw [if_neg htaken, if_neg htaken']
  exact .inr ⟨_, _, rfl, rfl,
    h.put hleft (h.first.put hdir hf.isName hfits htaken _) (h.second.put hdir' hf.isName hfits htaken' _)⟩

/-- A file is written in the second run as in the first. -/
theorem writeFile_again (ha : options.atomic = true) (h : Repeats m s u) (content : String)
    (hf : IsFileAt (output.join (Path.ofText path)) place name)
    (htold : ∀ p, TooLong (output.join (Path.ofText path)).root place p → told p)
    (hu : Kept (writeFile m options output path content).1 u) :
    Repeats (writeFile m options output path content).1 (writeFile s options output path content).1 u ∧
      Written.Alike told (writeFile m options output path content).2 (writeFile s options output path content).2 := by
  have hmade := (kept_made ha m output path content).trans hu
  have hparent := hf.parent_eq
  rw [hparent] at hmade
  obtain ⟨hdirs, htrouble⟩ := makeDirs_again h hf.root hf.parent_names hmade htold
  rw [← hparent] at hdirs htrouble
  cases hm : (m.makeDirs (output.join (Path.ofText path)).parent).trouble with
  | some e =>
    rw [hm] at htrouble
    cases hs : (s.makeDirs (output.join (Path.ofText path)).parent).trouble with
    | none =>
      rw [hs] at htrouble
      cases htrouble
    | some e' =>
      rw [hs] at htrouble
      rw [writeFile_of_trouble content options hm, writeFile_of_trouble content options hs]
      cases htrouble with
      | some halike => exact ⟨hdirs, .failed path halike⟩
  | none =>
    have hs : (s.makeDirs (output.join (Path.ofText path)).parent).trouble = none :=
      eq_none_of_rel (hm ▸ htrouble)
    -- The way is made, so the file comes into a directory.
    have hdir : (m.makeDirs (output.join (Path.ofText path)).parent).tree.get? place = some .dir := by
      rw [hparent] at hm ⊢
      exact (dirsAlong_of_trouble h.first.toWellFormed hf.root (h.first.way place) hf.parent_names hm).on _ List.prefix_rfl
    rw [writeFile_of_replace content ha (show m.makeDirs _ = ⟨_, none⟩ by rw [← hm])] at hu ⊢
    rw [writeFile_of_replace content ha (show s.makeDirs _ = ⟨_, none⟩ by rw [← hs])]
    have hkept : ∀ done, (m.makeDirs (output.join (Path.ofText path)).parent).tree.replace
        (output.join (Path.ofText path)) (Text.Utf8.encode content) = .ok done → Kept done u := by
      intro done hdone
      rw [hdone] at hu
      exact hu
    obtain ⟨e, hfirst, hsecond⟩ | ⟨done, done', hfirst, hsecond, hrepeats⟩ := replace_again hdirs hf hdir hkept
    · rw [hfirst, hsecond]
      exact ⟨hdirs, .failed path (.same e)⟩
    · rw [hfirst, hsecond]
      exact ⟨hrepeats, .written path _⟩

/-- At the path of a file nothing ends an export. -/
theorem fault?_writeFile (ha : options.atomic = true) (hp : t.Plain) (content : String)
    (hf : IsFileAt (output.join (Path.ofText path)) place name) :
    (writeFile t options output path content).2.fault? = none ∧ (writeFile t options output path content).1.Plain := by
  obtain ⟨made, names, hdirs, hmade, -, ⟨e, hsystem, hwrite⟩ | ⟨rfl, hfits, hfree, hwrite⟩⟩ :=
    writeFile_cases hp.toWellFormed hf content (hp.way place) ha
  all_goals have hplain := hp.of_addsDirs hdirs.toAddsDirs hmade
  · rw [hwrite]
    exact ⟨by simp only [Written.fault?, hsystem, if_true], hplain⟩
  · rw [hwrite]
    exact ⟨rfl, hplain.put (hdirs.on _ List.prefix_rfl) (hf.names name (by simp)) hfits hfree _⟩

/-- The paths are those of files, and those of directories with too long a name on their way can be told. -/
def FilesAt (output : Path) (told : String → Prop) (files : List (String × String)) : Prop :=
  ∀ f ∈ files, ∃ place name, IsFileAt (output.join (Path.ofText f.1)) place name ∧
    ∀ p, TooLong (output.join (Path.ofText f.1)).root place p → told p

theorem fault?_writeFiles (ha : options.atomic = true) (hp : t.Plain) (hfiles : FilesAt output told files) :
    (writeFiles t options output files).2.findSome? (·.fault?) = none ∧ (writeFiles t options output files).1.Plain := by
  induction files generalizing t with
  | nil => exact ⟨rfl, hp⟩
  | cons f rest ih =>
    obtain ⟨place, name, hf, -⟩ := hfiles f List.mem_cons_self
    obtain ⟨hfault, hplain⟩ := fault?_writeFile ha hp f.2 hf
    obtain ⟨hrest, hplain'⟩ := ih hplain fun g hg => hfiles g (List.mem_cons_of_mem _ hg)
    rw [(writeFiles_cons rest hfault).1]
    exact ⟨by simp only [List.findSome?_cons, hfault, hrest], hplain'⟩

/-- All files are written in the second run as in the first. -/
theorem writeFiles_again (ha : options.atomic = true) (h : Repeats m s u) (hfiles : FilesAt output told files)
    (hu : Kept (writeFiles m options output files).1 u) :
    Repeats (writeFiles m options output files).1 (writeFiles s options output files).1 u ∧
      List.Forall₂ (Written.Alike told) (writeFiles m options output files).2 (writeFiles s options output files).2 := by
  induction files generalizing m s with
  | nil => exact ⟨h, .nil⟩
  | cons f rest ih =>
    obtain ⟨place, name, hf, htold⟩ := hfiles f List.mem_cons_self
    have hcons := (writeFiles_cons rest (fault?_writeFile ha h.first f.2 hf).1).1
    have hcons' := (writeFiles_cons rest (fault?_writeFile ha h.second f.2 hf).1).1
    rw [hcons] at hu ⊢
    rw [hcons']
    have hlater := Kept.of_puts (puts_writeFiles ha output rest (writeFile m options output f.1 f.2).1)
    obtain ⟨hone, halike⟩ := writeFile_again ha h f.2 hf htold (hlater.trans hu)
    obtain ⟨hall, halikes⟩ := ih hone (fun g hg => hfiles g (List.mem_cons_of_mem _ hg)) hu
    exact ⟨hall, .cons halike halikes⟩

/-! ## Clearing -/

theorem plain_cleaned (hp : t.Plain) (options : Options) (output : Path) : (cleaned t options output).Plain := by
  unfold Export.cleaned cleanOutput
  split
  · simp only
    split <;> exact hp.clear output true
  · exact hp

theorem cleaned_of_clean (t : Tree) (hc : options.clean = true) (output : Path) :
    cleaned t options output = (t.clear output true).tree := by
  unfold cleaned cleanOutput
  rw [if_pos hc]
  simp only
  split <;> rfl

theorem here_cleaned (hp : t.Plain) (options : Options) (output : Path) : (cleaned t options output).here = t.here := by
  cases hc : options.clean with
  | false => rw [cleaned_of_not_clean t hc]
  | true =>
    rw [cleaned_of_clean t hc]
    exact (shrinks_clear hp.toWellFormed output true).here

/-- The second run clears nothing that the first has left from before. -/
theorem repeats_cleaned (hp : t.Plain) (hd : t.Distinct) (hu : u.Plain) (hroot : root ≠ "") (hn : ∀ n ∈ names, IsName n)
    (h : Kept (cleaned t options ⟨root, names⟩) u) :
    Repeats (cleaned t options ⟨root, names⟩) (cleaned u options ⟨root, names⟩) u := by
  cases hc : options.clean with
  | false =>
    rw [cleaned_of_not_clean t hc] at h ⊢
    rw [cleaned_of_not_clean u hc]
    exact ⟨hp, hu, h, Kept.refl u, fun q e he => .inl he⟩
  | true =>
    rw [cleaned_of_clean t hc] at h ⊢
    rw [cleaned_of_clean u hc]
    have hshrinks := shrinks_clear hp.toWellFormed ⟨root, names⟩ true
    have hshrinks' := shrinks_clear hu.toWellFormed ⟨root, names⟩ true
    have hplain := Plain.clear hp ⟨root, names⟩ true
    -- What is left of `t` lies at no name that is cleared, so the second run does not touch it.
    have hsame : ∀ q e, (t.clear ⟨root, names⟩ true).tree.get? q = some e →
        (u.clear ⟨root, names⟩ true).tree.get? q = u.get? q := by
      intro q e hq
      refine clear_untouched hu.toWellFormed hroot (hu.way names) hn fun n rest hcleared heq => ?_
      have hdir : t.get? names = some .dir :=
        hp.dir_of_prefix (hshrinks.of_some hq) (by rw [heq]; exact List.prefix_append _ _) (by simp [heq])
      rw [heq, clear_dir hp.toWellFormed hroot hdir (hp.clear_trouble hd hroot hdir) hcleared rest] at hq
      cases hq
    refine ⟨hplain, Plain.clear hu ⟨root, names⟩ true, ⟨?_, fun q hq => ?_, fun q bytes hq => ?_⟩,
      ⟨hshrinks'.here.symm, fun q => hshrinks'.of_some, fun q bytes hq => ⟨bytes, hshrinks'.of_some hq⟩⟩,
      fun q e he => .inl (hshrinks'.of_some he)⟩
    · rw [hshrinks'.here, h.here]
    · rw [hsame q _ hq, h.dirs q hq]
    · rw [hsame q _ hq]
      exact h.files q bytes hq

/-! ## A whole export -/

/-- Two exports come to the same, but for the path that a trouble of too long a name tells. -/
structure Run.Alike (told : String → Prop) (x y : Run) : Prop where
  options : y.options = x.options
  language : y.language = x.language
  output : y.output = x.output
  files : List.Forall₂ (Written.Alike told) x.files y.files
  noDirectory : Option.Rel (Export.Alike told) x.noDirectory y.noDirectory
  fault : x.fault = none
  fault' : y.fault = none

theorem Run.Alike.records {x y : Run} (h : x.Alike told y) : y.records = x.records := by
  have hfiles := h.files
  unfold Run.records
  generalize x.files = written at hfiles ⊢
  generalize y.files = written' at hfiles ⊢
  induction hfiles with
  | nil => rfl
  | cons halike _ ih =>
    cases halike with
    | written path record => exact congrArg (record :: ·) ih
    | failed path _ => exact ih

theorem Run.Alike.inventory {x y : Run} (h : x.Alike told y) : y.inventory = x.inventory := by
  rw [Run.inventory, Run.inventory, h.language, h.output, h.records]

/-- Two messages are the same, or end in that of too long a name and tell one of these paths. -/
inductive SameButPath (told : String → Prop) : String → String → Prop where
  | same (text : String) : SameButPath told text text
  | named (front : String) {p q : String} (hp : told p) (hq : told q) :
      SameButPath told (front ++ (Trouble.onPath .nameTooLong p).text) (front ++ (Trouble.onPath .nameTooLong q).text)

theorem Alike.text {e e' : Trouble} (h : Alike told e e') (front : String) :
    SameButPath told (front ++ e.text) (front ++ e'.text) := by
  cases h with
  | same e => exact .same _
  | named hp hq => exact .named front hp hq

theorem Run.Alike.errors {x y : Run} (h : x.Alike told y) : List.Forall₂ (SameButPath told) x.errors y.errors := by
  have hfiles : List.Forall₂ (SameButPath told) (x.files.filterMap Run.Written.error?)
      (y.files.filterMap Run.Written.error?) := by
    have hfiles := h.files
    generalize x.files = written at hfiles ⊢
    generalize y.files = written' at hfiles ⊢
    induction hfiles with
    | nil => exact .nil
    | cons halike _ ih =>
      cases halike with
      | written path record => exact ih
      | failed path halike => exact .cons (halike.text ("Failed to write " ++ path ++ ": ")) ih
  have hdirectory : List.Forall₂ (SameButPath told) (x.noDirectory.map Run.directoryError).toList
      (y.noDirectory.map Run.directoryError).toList := by
    have hdirectory := h.noDirectory
    generalize x.noDirectory = trouble at hdirectory ⊢
    generalize y.noDirectory = trouble' at hdirectory ⊢
    cases hdirectory with
    | none => exact .nil
    | some halike => exact .cons (halike.text "Fatal export error: ") .nil
  exact List.rel_append hfiles hdirectory

theorem Run.Alike.success {x y : Run} (h : x.Alike told y) : y.success = x.success := by
  have herrors := h.errors
  unfold Run.success
  generalize x.errors = texts at herrors ⊢
  generalize y.errors = texts' at herrors ⊢
  cases herrors with
  | nil => rfl
  | cons _ _ => rfl

/-- The inventory is a file in the output directory. -/
theorem isFileAt_inventory (hroot : out.root ≠ "") (hn : ∀ n ∈ out.parts, IsName n) :
    IsFileAt (out.join (Path.ofText Inventory.fileName)) out.parts Inventory.fileName := by
  have hfile := isFileAt_join hroot hn (show (Path.ofText Inventory.fileName).isAbsolute = false by decide)
    (show Files.partsOf Inventory.fileName = [] ++ [Inventory.fileName] by decide) (by decide)
  rwa [List.append_nil] at hfile

section run

variable {x y : Run} (settings : Settings) (ha : options.atomic = true) (hroot : out.root ≠ "")
  (hn : ∀ n ∈ out.parts, IsName n) (htold : ∀ p, TooLong out.root out.parts p → told p) (hfiles : FilesAt out told files)
include ha hroot hn

theorem plain_writeInventory (hx : x.options = options) (hout : x.output = out) (hp : t.Plain) :
    (writeInventory t x).1.Plain := by
  subst hx hout
  cases hi : x.options.inventory with
  | false => rwa [writeInventory, if_neg (by simp [hi])]
  | true =>
    rw [writeInventory_eq hi]
    exact (fault?_writeFile ha hp _ (isFileAt_inventory hroot hn)).2

omit hroot hn in
theorem kept_writeInventory (hx : x.options = options) (t : Tree) : Kept t (writeInventory t x).1 := by
  subst hx
  cases hi : x.options.inventory with
  | false =>
    rw [writeInventory, if_neg (by simp [hi])]
    exact Kept.refl t
  | true =>
    rw [writeInventory_eq hi]
    exact Kept.of_puts (puts_writeFile ha t _ _ _)

/-- The inventory is written in the second run as in the first. -/
theorem writeInventory_again (hx : x.options = options) (hout : x.output = out) (h : Repeats m s u) (hxy : x.Alike told y)
    (hu : Kept (writeInventory m x).1 u) :
    Repeats (writeInventory m x).1 (writeInventory s y).1 u ∧ (writeInventory m x).2.Alike told (writeInventory s y).2 := by
  subst hx hout
  cases hi : x.options.inventory with
  | false =>
    rw [writeInventory, if_neg (by simp [hi])] at hu ⊢
    rw [writeInventory, if_neg (by simp [hxy.options, hi])]
    exact ⟨h, hxy⟩
  | true =>
    rw [writeInventory_eq hi] at hu ⊢
    rw [writeInventory_eq (by rw [hxy.options, hi])]
    refine ⟨?_, hxy.options, hxy.language, hxy.output, hxy.files, hxy.noDirectory, hxy.fault, hxy.fault'⟩
    rw [hxy.options, hxy.output, hxy.inventory]
    exact (writeFile_again ha h _ (isFileAt_inventory hroot hn) (fun _ _ => trivial) hu).1

include hfiles

/-- Where the output directory is there or made the files are written, and then the inventory. -/
theorem run_of_made (hp : t.Plain) (hm : ((cleaned t options out).makeDirs out).trouble = none) :
    run t settings options out files = writeInventory (filesWritten t options out files).1
      (runBefore t settings options out (filesWritten t options out files).2) := by
  have hmade : ((cleaned t options out).makeDirs out).tree.Plain :=
    Plain.makeDirs (plain_cleaned hp options out) hroot hn
  have hfault : (filesWritten t options out files).2.findSome? (·.fault?) = none :=
    (fault?_writeFiles ha hmade fun f hf => hfiles f (mem_byPath.mp hf)).1
  rw [run_eq hm, hfault]

/-- An export leaves the tree well-formed. -/
theorem plain_run (hp : t.Plain) : (run t settings options out files).1.Plain := by
  have hmade : ((cleaned t options out).makeDirs out).tree.Plain :=
    Plain.makeDirs (plain_cleaned hp options out) hroot hn
  cases hm : ((cleaned t options out).makeDirs out).trouble with
  | some e =>
    rw [run_of_trouble settings hm]
    exact hmade
  | none =>
    rw [run_of_made settings ha hroot hn hfiles hp hm]
    exact plain_writeInventory ha hroot hn rfl rfl
      (fault?_writeFiles ha hmade fun f hf => hfiles f (mem_byPath.mp hf)).2

/-- What is there after clearing stays. -/
theorem kept_run (hp : t.Plain) : Kept (cleaned t options out) (run t settings options out files).1 := by
  have hmade : Kept (cleaned t options out) _ := Kept.of_puts (Puts.nil (Tree.addsDirs_makeDirs _ out))
  cases hm : ((cleaned t options out).makeDirs out).trouble with
  | some e =>
    rw [run_of_trouble settings hm]
    exact hmade
  | none =>
    rw [run_of_made settings ha hroot hn hfiles hp hm]
    exact (hmade.trans (Kept.of_puts (puts_writeFiles ha out (byPath files) _))).trans (kept_writeInventory ha rfl _)

theorem here_run (hp : t.Plain) : (run t settings options out files).1.here = t.here :=
  (kept_run settings ha hroot hn hfiles hp).here.trans (here_cleaned hp options out)

include htold

/-- From what clearing leaves on, the second run follows the first. -/
theorem run_repeats (hp : t.Plain) (hu : u.Plain) (h : Repeats (cleaned t options out) (cleaned u options out) u)
    (hleft : Kept (run t settings options out files).1 u) :
    Repeats (run t settings options out files).1 (run u settings options out files).1 u ∧
      (run t settings options out files).2.Alike told (run u settings options out files).2 := by
  cases hm : ((cleaned t options out).makeDirs out).trouble with
  | some e =>
    rw [run_of_trouble settings hm] at hleft ⊢
    obtain ⟨hmade, htrouble⟩ := makeDirs_again h hroot hn hleft htold
    cases hm' : ((cleaned u options out).makeDirs out).trouble with
    | none =>
      rw [hm, hm'] at htrouble
      cases htrouble
    | some e' =>
      rw [run_of_trouble settings hm']
      rw [hm, hm'] at htrouble
      exact ⟨hmade, rfl, rfl, rfl, .nil, htrouble, rfl, rfl⟩
  | none =>
    rw [run_of_made settings ha hroot hn hfiles hp hm] at hleft ⊢
    have hinventory := (kept_writeInventory ha rfl _).trans hleft
    have hwritten := (Kept.of_puts (puts_writeFiles ha out (byPath files) _)).trans hinventory
    obtain ⟨hmade, htrouble⟩ := makeDirs_again h hroot hn hwritten htold
    have hm' : ((cleaned u options out).makeDirs out).trouble = none := eq_none_of_rel (hm ▸ htrouble)
    rw [run_of_made settings ha hroot hn hfiles hu hm']
    obtain ⟨hall, halike⟩ := writeFiles_again ha hmade (fun f hf => hfiles f (mem_byPath.mp hf)) hinventory
    exact writeInventory_again ha hroot hn rfl rfl hall ⟨rfl, rfl, rfl, halike, .none, rfl, rfl⟩ hleft

/-- The same export once more leaves the same tree and comes to the same, but for the path that a trouble of too long
  a name tells. -/
theorem run_again (hp : t.Plain) (hd : t.Distinct) :
    let first := run t settings options out files
    let second := run first.1 settings options out files
    second.1.here = first.1.here ∧ (∀ q, second.1.get? q = first.1.get? q) ∧ first.2.Alike told second.2 := by
  intro first second
  have hplain : first.1.Plain := plain_run settings ha hroot hn hfiles hp
  have hcleaned := repeats_cleaned hp hd hplain hroot hn (kept_run settings ha hroot hn hfiles hp)
  obtain ⟨hrepeats, halike⟩ := run_repeats settings ha hroot hn htold hfiles hp hplain hcleaned (Kept.refl _)
  obtain ⟨hhere, hsame⟩ := hrepeats.same
  exact ⟨hhere, hsame, halike⟩

end run

end CrudQueries.Export
