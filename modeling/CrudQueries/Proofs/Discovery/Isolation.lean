/-
  CrudQueries.Proofs.Discovery.Isolation — a file that cannot be read or parsed does no harm to the others.

  A search of paths that lead somewhere looks at the files that they stand for, in order, and ends with the last. The
  entities are those of the files that can be read and parsed, and every other file is one error that begins with
  its path (`search_isolates`). What comes of a file depends on its own bytes alone: when they are replaced by some
  that cannot be parsed, its entities are gone, an error is in their place, and all other files are as before.

  A path without links on its way that leads nowhere ends the search as one that is not there, unless a name on the way
  is too long to be looked up; then it ends with the trouble of looking (`long_path_unreported`).
-/

import CrudQueries.Proofs.Discovery.Marked
import CrudQueries.Proofs.Discovery.Selected
import CrudQueries.Proofs.Discovery.Unmarked
import CrudQueries.Proofs.Files.Refilled
import CrudQueries.Proofs.Files.Resolved

namespace CrudQueries.Discovery

open CrudQueries.Files (Entry IsName Location Path Tree isName_replicate utf8ByteSize_replicate)
open CrudQueries.Files.Tree (LinkFree WellFormed fits)
open CrudQueries.Source (Stmt read?)

variable {t : Tree} {settings : Settings} {paths : List Path} {places : List Location} {place l : Location} {p path base : Path}
  {e : Entry} {old new : ByteArray} {body : List Stmt} {module : String}

/-! ## Files that are looked at -/

/-- A file that a search looks at, and the directory from which it is named. -/
structure Candidate where
  base : Path
  path : Path

/-- The files that are looked at for a path that leads to `place`. -/
def candidates (t : Tree) (settings : Settings) (place : Location) : List Candidate :=
  match t.get? place with
  | some (.file _) => [⟨⟨"/", place.dropLast⟩, ⟨"/", place⟩⟩]
  | _ => (sourceNames t settings place).map fun names => ⟨⟨"/", place⟩, ⟨"/", place ++ names⟩⟩

/-- The statements in bytes that are UTF-8 and can be parsed. -/
def statements? (bytes : ByteArray) : Option (List Stmt) :=
  match Text.Utf8.decode bytes with
  | .error _ => none
  | .ok text =>
    let source := String.ofList (Text.normalNewlines text.toList)
    if '\x00' ∈ source.toList then none else read? source

/-- The statements of a file that can be read and parsed. -/
def legible? (t : Tree) (path : Path) : Option (List Stmt) :=
  match t.read path with
  | .error _ => none
  | .ok bytes => statements? bytes

namespace Candidate

def origin (c : Candidate) : Origin :=
  ⟨c.path.text, (modulePath c.path c.base).toOption, some (packagePath c.path c.base)⟩

/-- The entities of the marked classes of a file that can be read and parsed; none of any other. -/
def entities (t : Tree) (settings : Settings) (c : Candidate) : List Entity :=
  match legible? t c.path with
  | none => []
  | some body => ((Stmt.classesOf body).filterMap (finding? settings.markerName c.origin)).map (·.entity)

def visit (t : Tree) (settings : Settings) (c : Candidate) : Visit := Discovery.visit t settings c.base c.path

end Candidate

theorem exists_modulePath (root : String) (place : Location) {names : List String} (hne : names ≠ []) :
    ∃ module, modulePath ⟨root, place ++ names⟩ ⟨root, place⟩ = .ok module := by
  have hrelative : (⟨root, place ++ names⟩ : Path).relativeTo? ⟨root, place⟩ = some ⟨"", names⟩ := by
    simp [Path.relativeTo?]
  obtain ⟨stem, hstem⟩ : ∃ stem, (⟨"", names⟩ : Path).withoutSuffix? = some stem := ⟨_, if_neg (by simp [hne])⟩
  unfold modulePath
  rw [hrelative]
  simp only [Option.getD_some, hstem]
  exact ⟨_, rfl⟩

/-- Each of them has a module. -/
theorem modulePath_of_mem_candidates {c : Candidate} (h : c ∈ candidates t settings place) :
    ∃ module, modulePath c.path c.base = .ok module := by
  unfold candidates at h
  split at h
  · rename_i hfile
    obtain rfl := List.mem_singleton.mp h
    obtain ⟨front, name, rfl⟩ : ∃ front name, place = front ++ [name] := by
      rcases List.eq_nil_or_concat place with rfl | ⟨front, name, rfl⟩
      · cases hfile
      · exact ⟨front, name, List.concat_eq_append⟩
    rw [List.dropLast_concat]
    exact exists_modulePath "/" front (by simp)
  · obtain ⟨names, hnames, rfl⟩ := List.mem_map.mp h
    obtain ⟨dirs, stem, rfl⟩ := (isSource_iff.mp (List.mem_filter.mp hnames).2).named
    exact exists_modulePath "/" place (by simp)

/-! ## One file -/

theorem readText_eq (t : Tree) (path : Path) : t.readText path =
    match t.read path with
    | .error e => .error (.trouble e)
    | .ok bytes =>
      match Text.Utf8.decode bytes with
      | .error fault => .error (.undecodable fault)
      | .ok text => .ok (String.ofList (Text.normalNewlines text.toList)) := by
  unfold Tree.readText
  cases t.read path with
  | error e => rfl
  | ok bytes =>
    simp only [bind, Except.bind, Except.mapError]
    cases Text.Utf8.decode bytes <;> rfl

/-- A file whose text can be read is scanned. -/
theorem visit_of_text {source : String} (hm : modulePath path base = .ok module) (h : t.readText path = .ok source) :
    (visit t settings base path).outcome =
      (scan source settings.markerName ⟨path.text, some module, some (packagePath path base)⟩).mapError .unscannable := by
  simp only [visit, h, hm, bind, Except.bind, Except.mapError]

/-- A file is legible if its text can be read and parsed. -/
theorem legible?_eq_some_iff : legible? t path = some body ↔
    ∃ source, t.readText path = .ok source ∧ '\x00' ∉ source.toList ∧ read? source = some body := by
  rw [readText_eq, legible?]
  cases t.read path with
  | error e => simp
  | ok bytes =>
    simp only [statements?]
    cases Text.Utf8.decode bytes with
    | error fault => simp
    | ok text => simp

/-- A file that can be read and parsed is scanned. -/
theorem visit_of_legible (hm : modulePath path base = .ok module) (h : legible? t path = some body) :
    (visit t settings base path).outcome =
      .ok ((Stmt.classesOf body).filterMap
        (finding? settings.markerName ⟨path.text, some module, some (packagePath path base)⟩)) := by
  obtain ⟨source, htext, hnull, hread⟩ := legible?_eq_some_iff.mp h
  rw [visit_of_text hm htext, scan_of_read hnull hread, Except.mapError]

/-- Any other file is an error. -/
theorem visit_of_illegible (hm : modulePath path base = .ok module) (h : legible? t path = none) :
    ∃ e, (visit t settings base path).outcome = .error e := by
  cases htext : t.readText path with
  | error e => exact ⟨.unreadable e, by simp only [visit, htext, bind, Except.bind, Except.mapError]⟩
  | ok source =>
    rw [visit_of_text hm htext]
    by_cases hnull : '\x00' ∈ source.toList
    · exact ⟨.unscannable .nullCharacter, by rw [scan_nullCharacter hnull, Except.mapError]⟩
    · have hread : read? source = none := by
        by_contra hsome
        obtain ⟨body, hread⟩ := Option.ne_none_iff_exists'.mp hsome
        have hbody : legible? t path = some body := legible?_eq_some_iff.mpr ⟨source, htext, hnull, hread⟩
        rw [h] at hbody
        cases hbody
      exact ⟨.unscannable (.malformed path.text), by rw [scan_malformed hnull hread, Except.mapError]⟩

/-- What a visit of a file comes to depends on whether it can be read and parsed. -/
theorem Candidate.visit_spec {c : Candidate} (h : c ∈ candidates t settings place) :
    (c.visit t settings).entities = c.entities t settings ∧
      ((legible? t c.path).isNone = true ∧ (∃ why, (c.visit t settings).error? = some (c.path.text ++ ": " ++ why)) ∨
        (legible? t c.path).isNone = false ∧ (c.visit t settings).error? = none) := by
  obtain ⟨module, hm⟩ := modulePath_of_mem_candidates h
  unfold Candidate.visit Candidate.entities Visit.entities Visit.error?
  cases hl : legible? t c.path with
  | none =>
    obtain ⟨e, he⟩ : ∃ e, (Discovery.visit t settings c.base c.path).outcome = .error e := visit_of_illegible hm hl
    rw [he]
    exact ⟨rfl, Or.inl ⟨rfl, e.message, rfl⟩⟩
  | some body =>
    have horigin : c.origin = ⟨c.path.text, some module, some (packagePath c.path c.base)⟩ := by
      rw [Candidate.origin, hm]
      rfl
    rw [visit_of_legible hm hl, horigin]
    exact ⟨rfl, Or.inr ⟨rfl, rfl⟩⟩

/-! ## All files -/

/-- A path that leads somewhere stands for the files that are looked at there. -/
theorem searchPath_of_find (hw : t.WellFormed) (hhere : t.get? t.here = some .dir)
    (h : t.find true p = .ok (.found place e)) :
    searchPath t settings p = .ok ((candidates t settings place).map (Candidate.visit t settings)) := by
  obtain ⟨hresolve, hplace, hlink⟩ := hw.resolve_of_find hhere h
  have hentry : t.entry? ⟨"/", place⟩ = .ok (some e) := hw.entry?_there (by decide) hplace hlink
  unfold searchPath candidates
  rw [hresolve, hplace]
  show ((t.entry? ⟨"/", place⟩).mapError Stop.trouble >>= _) = _
  rw [hentry]
  cases e with
  | file bytes => rfl
  | link target => exact absurd rfl (hlink target)
  | dir =>
    rw [List.map_map]
    show Except.ok ((sourceFiles t settings ⟨"/", place⟩).map (visit t settings ⟨"/", place⟩)) = _
    rw [sourceFiles_eq hw (by decide) hplace, List.map_map]
    rfl

/-- The paths lead to the locations. -/
abbrev LeadTo (t : Tree) (paths : List Path) (places : List Location) : Prop :=
  List.Forall₂ (fun p place => ∃ e, t.find true p = .ok (.found place e)) paths places

theorem exists_leadTo (h : ∀ p ∈ paths, ∃ e, t.entry? p = .ok (some e)) : ∃ places, LeadTo t paths places := by
  induction paths with
  | nil => exact ⟨[], .nil⟩
  | cons p paths ih =>
    obtain ⟨places, hplaces⟩ := ih fun q hq => h q (List.mem_cons_of_mem _ hq)
    obtain ⟨e, he⟩ := h p List.mem_cons_self
    obtain ⟨place, hfind⟩ := Tree.entry?_eq_some_iff.mp he
    exact ⟨place :: places, .cons ⟨e, hfind⟩ hplaces⟩

/-- The files that are looked at for paths that lead to `places`. -/
def allCandidates (t : Tree) (settings : Settings) (places : List Location) : List Candidate :=
  places.flatMap (candidates t settings)

/-- A search of paths that lead somewhere goes on with those after them. -/
theorem search_append (hw : t.WellFormed) (hhere : t.get? t.here = some .dir) (h : LeadTo t paths places)
    (rest : List Path) :
    search t settings (paths ++ rest) =
      { search t settings rest with
        visits := (allCandidates t settings places).map (Candidate.visit t settings) ++ (search t settings rest).visits } := by
  induction h with
  | nil => rfl
  | @cons p place paths places hfind hplaces ih =>
    obtain ⟨e, hfind⟩ := hfind
    rw [List.cons_append, search, searchPath_of_find hw hhere hfind]
    simp only [ih, allCandidates, List.flatMap_cons, List.map_append, List.append_assoc]

theorem search_of_leadTo (hw : t.WellFormed) (hhere : t.get? t.here = some .dir) (h : LeadTo t paths places) :
    search t settings paths = ⟨(allCandidates t settings places).map (Candidate.visit t settings), none⟩ := by
  have happend : search t settings (paths ++ []) = _ := search_append hw hhere h []
  rw [List.append_nil] at happend
  rw [happend, search, List.append_nil]

/-- A path of names without links that leads nowhere stops the search as one that is not there, unless one of its
  names is too long. -/
theorem search_absent (hw : t.WellFormed) (hhere : t.get? t.here = some .dir) (h : LeadTo t paths places) (after : List Path)
    (hn : ∀ n ∈ p.parts, IsName n) (hl : LinkFree t (t.startOf p ++ p.parts))
    (habsent : t.get? (t.startOf p ++ p.parts) = none) :
    (search t settings (paths ++ p :: after)).stop = some (.missing (⟨"/", t.startOf p ++ p.parts⟩ : Path).text) ∨
      (∃ n ∈ t.startOf p ++ p.parts, fits n = false) ∧
        (search t settings (paths ++ p :: after)).stop =
          some (.trouble (.onPath .nameTooLong (⟨"/", t.startOf p ++ p.parts⟩ : Path).text)) := by
  have hstart : ∀ n ∈ t.startOf p, IsName n := by
    unfold Tree.startOf
    split
    · simp
    · exact hw.here
  have hnames : ∀ n ∈ t.startOf p ++ p.parts, IsName n := fun n hm =>
    (List.mem_append.mp hm).elim (hstart n) (hn n)
  rw [search_append hw hhere h, search, searchPath, Tree.resolve_of_linkFree hn hl]
  rcases hw.entry?_of_absent hnames hl habsent with hentry | ⟨hlong, hentry⟩
  · refine Or.inl ?_
    simp only [bind, Except.bind, Except.mapError, hentry]
  · refine Or.inr ⟨hlong, ?_⟩
    simp only [bind, Except.bind, Except.mapError, hentry]

theorem forall₂_filterMap {α β : Type} {f : α → Option β} {keep : α → Bool} {R : α → β → Prop} {l : List α}
    (h : ∀ x ∈ l, keep x = true ∧ (∃ y, f x = some y ∧ R x y) ∨ keep x = false ∧ f x = none) :
    List.Forall₂ R (l.filter keep) (l.filterMap f) := by
  induction l with
  | nil => exact .nil
  | cons x l ih =>
    have hl := ih fun y hy => h y (List.mem_cons_of_mem _ hy)
    rcases h x List.mem_cons_self with ⟨hk, y, hf, hR⟩ | ⟨hk, hf⟩
    · rw [List.filter_cons_of_pos hk, List.filterMap_cons_some hf]
      exact .cons hR hl
    · rw [List.filter_cons_of_neg (by simp [hk]), List.filterMap_cons_none hf]
      exact hl

/-! ## Other bytes -/

section

variable (h : t.get? l = some (.file old)) (new : ByteArray)
include h

theorem candidates_refill (settings : Settings) (place : Location) :
    candidates (t.put l (.file new)) settings place = candidates t settings place := by
  have hnames : sourceNames (t.put l (.file new)) settings place = sourceNames t settings place := by
    rw [sourceNames, sourceNames, Tree.below_refill h]
  unfold candidates
  rw [hnames]
  cases hg : t.get? place with
  | none => rw [Tree.get?_refill_other h new hg (by simp)]
  | some e =>
    cases e with
    | file bytes => rw [Tree.get?_refill_file h new hg]
    | dir | link => rw [Tree.get?_refill_other h new hg (by simp)]

theorem LeadTo.refill (hlead : LeadTo t paths places) : LeadTo (t.put l (.file new)) paths places := by
  refine hlead.imp ?_
  rintro p place ⟨e, hfind⟩
  have hfind' := Tree.find_refill h new true p
  rw [hfind] at hfind'
  cases e with
  | file bytes => exact ⟨_, hfind'⟩
  | dir => exact ⟨_, hfind'⟩
  | link target => exact ⟨_, hfind'⟩

/-- A file that is not read from there is visited as before. -/
theorem visit_refill_of_ne {c : Candidate} (hne : t.readsFrom? c.path ≠ some l) :
    c.visit (t.put l (.file new)) settings = c.visit t settings := by
  unfold Candidate.visit visit
  rw [readText_eq, readText_eq, Tree.read_refill_of_ne h new hne]

/-- A file that is read from there is an error if the new bytes cannot be parsed. -/
theorem visit_refill {c : Candidate} (hc : c ∈ candidates t settings place) (hread : t.readsFrom? c.path = some l)
    (hnew : statements? new = none) :
    (c.visit (t.put l (.file new)) settings).entities = [] ∧ (c.visit (t.put l (.file new)) settings).error? ≠ none := by
  have hillegible : legible? (t.put l (.file new)) c.path = none := by
    rw [legible?, Tree.read_refill h new hread]
    exact hnew
  rw [← candidates_refill h new] at hc
  obtain ⟨hentities, ⟨-, why, herror⟩ | ⟨hlegible, -⟩⟩ := Candidate.visit_spec hc
  · rw [hentities, Candidate.entities, hillegible, herror]
    exact ⟨rfl, nofun⟩
  · rw [hillegible] at hlegible
    cases hlegible

end

/-! ## Searches -/

/-- The visits of a search, and those after the file at `l` was given bytes that cannot be parsed: without its
  entities and with an error if it is read from there, and as before otherwise. -/
abbrev SpoilsOnly (t : Tree) (l : Location) : List Visit → List Visit → Prop :=
  List.Forall₂ fun v v' => v'.path = v.path ∧
    if t.readsFrom? v.path = some l then v'.entities = [] ∧ v'.error? ≠ none else v' = v

theorem search_refill (hw : t.WellFormed) (hhere : t.get? t.here = some .dir) (hlead : LeadTo t paths places)
    (h : t.get? l = some (.file old)) (hnew : statements? new = none) :
    (search (t.put l (.file new)) settings paths).stop = none ∧
      SpoilsOnly t l (search t settings paths).visits (search (t.put l (.file new)) settings paths).visits := by
  have hall : allCandidates (t.put l (.file new)) settings places = allCandidates t settings places :=
    List.flatMap_congr fun place _ => candidates_refill h new settings place
  have hdir : (t.put l (.file new)).get? t.here = some .dir := Tree.get?_refill_other h new hhere nofun
  rw [search_of_leadTo hw hhere hlead, search_of_leadTo (WellFormed.refill h new hw) hdir (LeadTo.refill h new hlead), hall]
  refine ⟨rfl, List.forall₂_map_left_iff.mpr (List.forall₂_map_right_iff.mpr (List.forall₂_same.mpr fun c hc => ⟨rfl, ?_⟩))⟩
  obtain ⟨place, -, hmem⟩ := List.mem_flatMap.mp hc
  split
  · rename_i hread
    exact visit_refill h new hmem hread hnew
  · rename_i hread
    exact visit_refill_of_ne h new hread

/-- What a search of paths that lead to `places` comes to. -/
structure Isolates (t : Tree) (settings : Settings) (paths : List Path) (places : List Location) : Prop where
  goesOn : (search t settings paths).stop = none
  /-- The sources of a directory are looked at in the order of their names. -/
  inOrder : ∀ place ∈ places, Lists (fun names => Passes settings names ∧ t.get? (place ++ names) ≠ none)
    (sourceNames t settings place)
  visited : (search t settings paths).visits.map (·.path) = (allCandidates t settings places).map (·.path)
  entities : (search t settings paths).entities = (allCandidates t settings places).flatMap (Candidate.entities t settings)
  /-- Each file that cannot be read or parsed is one error, which begins with its path. -/
  errors : List.Forall₂ (fun c message => ∃ why, message = c.path.text ++ ": " ++ why)
    ((allCandidates t settings places).filter fun c => (legible? t c.path).isNone) (search t settings paths).errors
  /-- Bytes that cannot be parsed in the place of those of one file change nothing but what comes of it. -/
  spoilsOnly : ∀ l old new, t.get? l = some (.file old) → statements? new = none →
    (search (t.put l (.file new)) settings paths).stop = none ∧
      SpoilsOnly t l (search t settings paths).visits (search (t.put l (.file new)) settings paths).visits
  /-- A path of names without links that leads nowhere stops the search as one that is not there, unless one of its
    names is too long. -/
  absent : ∀ p after, (∀ n ∈ p.parts, IsName n) → LinkFree t (t.startOf p ++ p.parts) →
    t.get? (t.startOf p ++ p.parts) = none →
    (search t settings (paths ++ p :: after)).stop = some (.missing (⟨"/", t.startOf p ++ p.parts⟩ : Path).text) ∨
      (∃ n ∈ t.startOf p ++ p.parts, fits n = false) ∧
        (search t settings (paths ++ p :: after)).stop =
          some (.trouble (.onPath .nameTooLong (⟨"/", t.startOf p ++ p.parts⟩ : Path).text))

/-- A search of paths that lead somewhere does not stop. It looks at their files in order; its entities are those of
  the files that can be read and parsed, and each of the others is one error. -/
theorem search_isolates (hw : t.WellFormed) (hd : t.Distinct) (hhere : t.get? t.here = some .dir) (settings : Settings)
    (hpaths : ∀ p ∈ paths, ∃ e, t.entry? p = .ok (some e)) :
    ∃ places, LeadTo t paths places ∧ Isolates t settings paths places := by
  obtain ⟨places, hlead⟩ := exists_leadTo hpaths
  have hsearch : search t settings paths = _ := search_of_leadTo hw hhere hlead
  have hplace : ∀ c ∈ allCandidates t settings places, ∃ place, c ∈ candidates t settings place := fun c hc => by
    obtain ⟨place, -, hmem⟩ := List.mem_flatMap.mp hc
    exact ⟨place, hmem⟩
  refine ⟨places, hlead, {
    goesOn := by rw [hsearch]
    inOrder := fun _ _ => sourceNames_lists hd
    visited := ?visited
    entities := ?entities
    errors := ?errors
    spoilsOnly := fun l old new h hnew => search_refill hw hhere hlead h hnew
    absent := fun p after hn hl habsent => search_absent hw hhere hlead after hn hl habsent }⟩
  case visited =>
    rw [hsearch, List.map_map]
    rfl
  case entities =>
    rw [Search.entities, hsearch, List.flatMap_map]
    refine List.flatMap_congr fun c hc => ?_
    obtain ⟨place, hmem⟩ := hplace c hc
    exact (Candidate.visit_spec hmem).1
  case errors =>
    rw [Search.errors, hsearch, List.filterMap_map]
    refine forall₂_filterMap fun c hc => ?_
    obtain ⟨place, hmem⟩ := hplace c hc
    rcases (Candidate.visit_spec hmem).2 with ⟨hnone, why, herror⟩ | ⟨hsome, herror⟩
    · exact Or.inl ⟨hnone, _, herror, why, rfl⟩
    · exact Or.inr ⟨hsome, herror⟩

theorem search_isolates_source :
    sourceTree.WellFormed ∧ sourceTree.Distinct ∧ sourceTree.get? sourceTree.here = some .dir ∧
      (∀ p ∈ [(⟨"/", ["src"]⟩ : Path)], ∃ e, sourceTree.entry? p = .ok (some e)) ∧
      ∃ places, LeadTo sourceTree [⟨"/", ["src"]⟩] places ∧ Isolates sourceTree {} [⟨"/", ["src"]⟩] places := by
  have hw : sourceTree.WellFormed := by decide
  have hpaths : ∀ p ∈ [(⟨"/", ["src"]⟩ : Path)], ∃ e, sourceTree.entry? p = .ok (some e) := by
    intro p hp
    obtain rfl := List.mem_singleton.mp hp
    exact ⟨.dir, hw.entry?_there (by decide) (by decide) nofun⟩
  have hd : sourceTree.Distinct := by decide
  exact ⟨hw, hd, by decide, hpaths, search_isolates hw hd (by decide) {} hpaths⟩

/-- In an empty tree a name that is too long cannot be there, and the search stops with the trouble of looking it up. -/
theorem search_long {name : String} (hname : IsName name) (hlong : fits name = false) :
    (∀ e, Tree.entry? {} ⟨"", [name]⟩ ≠ .ok (some e)) ∧
      (search {} {} [⟨"", [name]⟩]).stop = some (.trouble (.onPath .nameTooLong (⟨"/", [name]⟩ : Path).text)) := by
  have hp : ({} : Tree).Plain := by decide
  have hn : ∀ n ∈ [name], IsName n := List.forall_mem_singleton.mpr hname
  have hwalk : ({} : Tree).walk true Files.maxLinks [] [name] = .error .nameTooLong :=
    hp.walk_long (Tree.get?_nil _) hname hlong []
  have hstart : ({} : Tree).startOf ⟨"", [name]⟩ = [] := rfl
  have hrelative : Tree.entry? {} ⟨"", [name]⟩ = .error (.onPath .nameTooLong (⟨"", [name]⟩ : Path).text) := by
    rw [ Tree.entry?, Tree.hasNull_names hn, if_neg Bool.false_ne_true, hstart]
    simp only [hwalk]
    rfl
  have hentry : Tree.entry? {} ⟨"/", [name]⟩ = .error (.onPath .nameTooLong (⟨"/", [name]⟩ : Path).text) := by
    rw [Tree.entry?_names _ (by decide) hn, hwalk]
    rfl
  have hresolve : ({} : Tree).resolve ⟨"", [name]⟩ = .ok ⟨"/", [name]⟩ :=
    Tree.resolve_of_linkFree hn (hp.linkFree _)
  constructor
  · intro e he
    rw [hrelative] at he
    cases he
  · rw [search, searchPath, hresolve]
    simp only [bind, Except.bind, Except.mapError, hentry]

/-- A name that is longer than any that an entry has. -/
def longName : String := String.ofList (List.replicate 256 'x')

/-- A path that cannot be there stops the search, but not as one that is not there. -/
theorem long_path_unreported :
    ({} : Tree).WellFormed ∧ ({} : Tree).get? ({} : Tree).here = some .dir ∧ ({} : Tree).get? [longName] = none ∧
      (∀ e, Tree.entry? {} ⟨"", [longName]⟩ ≠ .ok (some e)) ∧
      ∃ stop, (search {} {} [⟨"", [longName]⟩]).stop = some stop ∧ stop.kind = "OSError" ∧
        stop.kind ≠ "FileNotFoundError" := by
  have hsize : longName.utf8ByteSize = 256 := by
    unfold longName
    exact utf8ByteSize_replicate 256
  have hlong : fits longName = false := by
    rw [fits, hsize]
    decide
  obtain ⟨hentry, hstop⟩ := search_long (isName_replicate (by decide) : IsName longName) hlong
  exact ⟨by decide, rfl, rfl, hentry, _, hstop, rfl, by decide⟩

end CrudQueries.Discovery
