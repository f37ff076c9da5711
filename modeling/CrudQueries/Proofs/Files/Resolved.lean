/-
  CrudQueries.Proofs.Files.Resolved — paths that lead somewhere are resolved to where they lead.

  A walk replaces each link by its target and goes on; resolving a path resolves the target of each link first, and
  gives up on a link inside its own replacement. The two are compared by way of a relation that counts the links which
  names pass (`Leads`). The count is fixed by the names (`Leads.unique`), and a link costs more than what its target
  passes, so no link is met inside its own replacement, and the links that are being replaced are different entries of
  the tree (`resolveNames_of_leads`).

  So what a path leads to in a well-formed tree is also found at the path that it is resolved to
  (`WellFormed.resolve_of_find`). A path without links on its way is resolved to its names, whatever is there; if
  nothing is, that is known unless a name on the way is too long to be looked up (`WellFormed.entry?_of_absent`).
-/

import CrudQueries.Proofs.Files.Cleared
import Mathlib.Data.List.Perm.Subperm

namespace CrudQueries.Files.Tree

variable {t u : Tree} {place mid q q' : Location} {names rest front : List String} {name target : String} {e : Entry}
  {k k' links fuel : Nat} {within : List Location} {p : Path}

/-! ## Names that lead somewhere -/

/-- Where a name leads to without a link, or the target of the link that it is. -/
def pass (t : Tree) (place : Location) (name : String) : Location ⊕ String :=
  if name == "." then .inl place
  else if name == ".." then .inl place.dropLast
  else
    match t.get? (place ++ [name]) with
    | some (.link target) => .inr target
    | _ => .inl (place ++ [name])

/-- Names lead from one location to another and pass `k` links, those in the targets of links included. -/
inductive Leads (t : Tree) : Nat → Location → List String → Location → Prop
  | nil (place : Location) : Leads t 0 place [] place
  | pass {k : Nat} {place next q : Location} {name : String} {rest : List String} (hp : t.pass place name = .inl next)
      (h : Leads t k next rest q) : Leads t k place (name :: rest) q
  | link {k k' : Nat} {place mid q : Location} {name target : String} {rest : List String}
      (hp : t.pass place name = .inr target) (htarget : Leads t k (targetStart place target) (targetNames target) mid)
      (h : Leads t k' mid rest q) : Leads t (k + k' + 1) place (name :: rest) q

theorem pass_eq_inr (h : t.pass place name = .inr target) :
    name ≠ "." ∧ name ≠ ".." ∧ t.get? (place ++ [name]) = some (.link target) := by
  unfold pass at h
  split at h
  · cases h
  · split at h
    · cases h
    · rename_i hhere hup
      refine ⟨by simpa using hhere, by simpa using hup, ?_⟩
      split at h
      · rename_i hlink
        rw [hlink, Sum.inr.inj h]
      · cases h

/-- Names pass one number of links, and lead to one location. -/
theorem Leads.unique (h : Leads t k place names q) (h' : Leads t k' place names q') : k = k' ∧ q = q' := by
  induction h generalizing k' q' with
  | nil =>
    cases h'
    exact ⟨rfl, rfl⟩
  | pass hp h ih =>
    cases h' with
    | pass hp' h' =>
      obtain rfl := Sum.inl.inj (hp.symm.trans hp')
      exact ih h'
    | link hp' => exact absurd (hp.symm.trans hp') nofun
  | link hp htarget h ihtarget ih =>
    cases h' with
    | pass hp' => exact absurd (hp.symm.trans hp') nofun
    | link hp' htarget' h' =>
      obtain rfl := Sum.inr.inj (hp.symm.trans hp')
      obtain ⟨rfl, rfl⟩ := ihtarget htarget'
      obtain ⟨rfl, rfl⟩ := ih h'
      exact ⟨rfl, rfl⟩

/-- Names that lead somewhere do so in two parts. -/
theorem Leads.of_append (h : Leads t k place (front ++ rest) q) :
    ∃ l m mid, k = l + m ∧ Leads t l place front mid ∧ Leads t m mid rest q := by
  induction front generalizing k place with
  | nil => exact ⟨0, k, place, (Nat.zero_add k).symm, .nil place, h⟩
  | cons name front ih =>
    cases h with
    | pass hp h =>
      obtain ⟨l, m, mid, hk, hfront, hrest⟩ := ih h
      exact ⟨l, m, mid, hk, .pass hp hfront, hrest⟩
    | @link k k' _ _ _ _ _ _ hp htarget h =>
      obtain ⟨l, m, mid, rfl, hfront, hrest⟩ := ih h
      exact ⟨k + l + 1, m, mid, by omega, .link hp htarget hfront, hrest⟩

theorem pass_name (hn : LookedUp name) :
    t.pass place name =
      match t.get? (place ++ [name]) with
      | some (.link target) => .inr target
      | _ => .inl (place ++ [name]) := by
  rw [pass, if_neg (by simpa using hn.notHere), if_neg (by simpa using hn.notUp)]

/-- What a walk finds its names lead to. -/
theorem Walks.leads {w : Except Cause Place} (h : Walks t true links place names w) (hw : w = .ok (.found q e)) :
    ∃ k, Leads t k place names q := by
  induction h with
  | done =>
    cases hw
    exact ⟨0, .nil _⟩
  | here _ ih =>
    obtain ⟨k, hk⟩ := ih hw
    exact ⟨k, .pass (if_pos (by decide)) hk⟩
  | up _ ih =>
    obtain ⟨k, hk⟩ := ih hw
    exact ⟨k, .pass (by rw [pass, if_neg (by decide), if_pos (by decide)]) hk⟩
  | dir hn hg _ ih =>
    obtain ⟨k, hk⟩ := ih hw
    exact ⟨k, .pass (by rw [pass_name hn, hg]) hk⟩
  | file hn hg =>
    cases hw
    exact ⟨0, .pass (by rw [pass_name hn, hg]) (.nil _)⟩
  | through hn hg _ _ ih =>
    obtain ⟨k, hk⟩ := ih hw
    obtain ⟨l, m, mid, -, htarget, hrest⟩ := hk.of_append
    exact ⟨l + m + 1, .link (by rw [pass_name hn, hg]) htarget hrest⟩
  | link _ _ hmeant => cases hmeant
  | long | missing | noEntry | notDirectory | tooManyLinks => cases hw

/-! ## Resolving -/

theorem resolveNames_cons (fuel : Nat) (within : List Location) (place : Location) (name : String) (rest : List String) :
    t.resolveNames fuel within place (name :: rest) =
      match t.pass place name with
      | .inl next => t.resolveNames fuel within next rest
      | .inr target =>
        if within.contains (place ++ [name]) then .error (place ++ [name] ++ rest)
        else
          match fuel with
          | 0 => .error (place ++ [name] ++ rest)
          | fuel + 1 =>
            match t.resolveNames fuel ((place ++ [name]) :: within) (targetStart place target) (targetNames target) with
            | .ok mid => t.resolveNames (fuel + 1) within mid rest
            | .error names => .error (names ++ rest) := by
  rw [resolveNames, pass]
  split
  · rfl
  · split
    · rfl
    · cases t.get? (place ++ [name]) with
      | none => rfl
      | some e => cases e <;> rfl

/-- A link whose target passes at least `k` links. -/
def Costs (t : Tree) (k : Nat) (link : Location) : Prop :=
  ∃ target c mid, t.get? link = some (.link target) ∧
    Leads t c (targetStart link.dropLast target) (targetNames target) mid ∧ k ≤ c

theorem Costs.mono {link : Location} (h : Costs t k link) (hk : k' ≤ k) : Costs t k' link := by
  obtain ⟨target, c, mid, hlink, htarget, hc⟩ := h
  exact ⟨target, c, mid, hlink, htarget, hk.trans hc⟩

/-- Different links are no more than the tree has entries. -/
theorem length_lt_of_links (hn : (q :: within).Nodup) (hlinks : ∀ link ∈ q :: within, ∃ target, t.get? link = some (.link target)) :
    within.length < t.entries.length := by
  have hsub : q :: within ⊆ t.entries.map (·.1) := by
    intro link hmem
    obtain ⟨target, hlink⟩ := hlinks link hmem
    refine List.mem_map_of_mem (f := (·.1)) (mem_of_get? hlink ?_)
    rintro rfl
    cases hlink
  have hlength := (hn.subperm hsub).length_le
  rw [List.length_map, List.length_cons] at hlength
  omega

/-- Names that lead somewhere are resolved to that, while the links that are being replaced cost more than they do. -/
theorem resolveNames_of_leads (h : Leads t k place names q) (hn : within.Nodup) (hcosts : ∀ link ∈ within, Costs t k link)
    (hfuel : t.entries.length ≤ fuel + within.length) : t.resolveNames fuel within place names = .ok q := by
  induction h generalizing fuel within with
  | nil => rw [resolveNames]
  | pass hp h ih =>
    rw [resolveNames_cons, hp]
    exact ih hn hcosts hfuel
  | @link k k' place mid q name target rest hp htarget h ihtarget ih =>
    obtain ⟨-, -, hlink⟩ := pass_eq_inr hp
    have hcost : Costs t k (place ++ [name]) := ⟨target, k, mid, hlink, by rwa [List.dropLast_concat], le_rfl⟩
    -- Were the link being replaced, its target would pass more links than it does.
    have hnew : place ++ [name] ∉ within := by
      intro hmem
      obtain ⟨target', c, mid', hlink', htarget', hc⟩ := hcosts _ hmem
      obtain rfl := Entry.link.inj (Option.some.inj (hlink.symm.trans hlink'))
      rw [List.dropLast_concat] at htarget'
      obtain ⟨rfl, -⟩ := htarget.unique htarget'
      omega
    have hn' : ((place ++ [name]) :: within).Nodup := List.nodup_cons.mpr ⟨hnew, hn⟩
    have hcosts' : ∀ link ∈ (place ++ [name]) :: within, Costs t k link := by
      intro link hmem
      rcases List.mem_cons.mp hmem with rfl | hmem
      · exact hcost
      · exact (hcosts link hmem).mono (by omega)
    have hlength : within.length < t.entries.length := length_lt_of_links hn' fun link hmem => by
      obtain ⟨target, -, -, hlink, -⟩ := hcosts' link hmem
      exact ⟨target, hlink⟩
    rw [resolveNames_cons, hp]
    simp only [List.contains_iff_mem, hnew, if_false]
    cases fuel with
    | zero => omega
    | succ fuel =>
      have htarget : t.resolveNames fuel ((place ++ [name]) :: within) (targetStart place target) (targetNames target) =
          .ok mid :=
        ihtarget hn' hcosts' (by rw [List.length_cons]; omega)
      simp only [htarget]
      exact ih hn (fun link hmem => (hcosts link hmem).mono (by omega)) hfuel

/-- The directory that holds a directory. -/
theorem WellFormed.dir_dropLast (hw : t.WellFormed) (h : t.get? place = some .dir) : t.get? place.dropLast = some .dir := by
  rcases List.eq_nil_or_concat place with rfl | ⟨front, name, rfl⟩
  · exact h
  · rw [List.concat_eq_append] at h ⊢
    rw [List.dropLast_concat]
    exact hw.closed front name _ h

/-- What a walk from a directory finds is there, and it is no link. -/
theorem WellFormed.get?_of_walks (hw : t.WellFormed) {w : Except Cause Place} (h : Walks t true links place names w)
    (hfound : w = .ok (.found q e)) (hdir : t.get? place = some .dir) :
    t.get? q = some e ∧ ∀ target, e ≠ .link target := by
  induction h with
  | done =>
    cases hfound
    exact ⟨hdir, by simp⟩
  | here _ ih => exact ih hfound hdir
  | up _ ih => exact ih hfound (hw.dir_dropLast hdir)
  | dir _ hg _ ih => exact ih hfound hg
  | file _ hg =>
    cases hfound
    exact ⟨hg, by simp⟩
  | through _ _ _ _ ih =>
    -- The target of a link begins at the root or where the link stands.
    refine ih hfound ?_
    unfold targetStart
    split
    · exact get?_nil t
    · exact hdir
  | link _ _ hmeant => cases hmeant
  | long | missing | noEntry | notDirectory | tooManyLinks => cases hfound

/-- What a path leads to is at the location that the path is resolved to. -/
theorem WellFormed.resolve_of_find (hw : t.WellFormed) (hhere : t.get? t.here = some .dir)
    (h : t.find true p = .ok (.found place e)) :
    t.resolve p = .ok ⟨"/", place⟩ ∧ t.get? place = some e ∧ ∀ target, e ≠ .link target := by
  obtain ⟨hnull, hwalk⟩ := find_eq_ok.mp h
  have hstart : t.get? (t.startOf p) = some .dir := by
    unfold startOf
    split
    · exact get?_nil t
    · exact hhere
  obtain ⟨k, hk⟩ := (walks_iff.mpr hwalk).leads rfl
  have hresolved : t.resolveNames t.entries.length [] (t.startOf p) p.parts = .ok place :=
    resolveNames_of_leads hk List.nodup_nil (by simp) (by simp)
  refine ⟨?_, hw.get?_of_walks (walks_iff.mpr hwalk) rfl hstart⟩
  rw [resolve, hnull, hresolved]
  rfl

theorem entry?_eq_some_iff : t.entry? p = .ok (some e) ↔ ∃ place, t.find true p = .ok (.found place e) := by
  simp only [find_eq_ok, entry?]
  cases hasNull p with
  | true => simp
  | false =>
    rw [if_neg Bool.false_ne_true]
    cases t.walk true maxLinks (t.startOf p) p.parts with
    | error cause => cases cause <;> simp [Cause.isAbsence]
    | ok w => cases w <;> simp

/-! ## Paths without links -/

theorem leads_of_linkFree (hn : ∀ n ∈ names, IsName n) (hl : t.LinkFree (place ++ names)) :
    Leads t 0 place names (place ++ names) := by
  induction names generalizing place with
  | nil =>
    rw [List.append_nil]
    exact .nil place
  | cons name rest ih =>
    have hsplit : place ++ name :: rest = place ++ [name] ++ rest := by simp
    rw [hsplit] at hl ⊢
    have hpass : t.pass place name = .inl (place ++ [name]) := by
      have hname := hn name List.mem_cons_self
      rw [pass, if_neg (by simpa using hname.notHere), if_neg (by simpa using hname.notUp)]
      split
      · rename_i hlink
        exact absurd hlink (hl _ (List.prefix_append _ rest) _)
      · rfl
    exact .pass hpass (ih (fun n hm => hn n (List.mem_cons_of_mem _ hm)) hl)

theorem resolve_of_linkFree (hn : ∀ n ∈ p.parts, IsName n) (hl : t.LinkFree (t.startOf p ++ p.parts)) :
    t.resolve p = .ok ⟨"/", t.startOf p ++ p.parts⟩ := by
  have hresolved : t.resolveNames t.entries.length [] (t.startOf p) p.parts = .ok (t.startOf p ++ p.parts) :=
    resolveNames_of_leads (leads_of_linkFree hn hl) List.nodup_nil (by simp) (by simp)
  have hnull : hasNull p = false := hasNull_names hn
  rw [resolve, hnull, hresolved]
  rfl

/-- Where nothing is, that is known, unless a name on the way is too long to be looked up. -/
theorem WellFormed.entry?_of_absent (hw : t.WellFormed) (hn : ∀ n ∈ names, IsName n) (hl : t.LinkFree names)
    (habsent : t.get? names = none) :
    t.entry? ⟨"/", names⟩ = .ok none ∨
      (∃ n ∈ names, fits n = false) ∧ t.entry? ⟨"/", names⟩ = .error (.onPath .nameTooLong (⟨"/", names⟩ : Path).text) := by
  rw [entry?_names t (show "/" ≠ "" by decide) hn]
  cases hl.way with
  | there h =>
    rw [h] at habsent
    cases habsent
  | blocked rest h =>
    rw [hw.walk_blocked h]
    cases rest with
    | nil =>
      rw [List.append_nil, h] at habsent
      cases habsent
    | cons name rest => exact Or.inl rfl
  | @absent place name rest hdir hfits h =>
    rw [hw.walk_absent hdir (hn name (by simp)) hfits h]
    cases rest <;> exact Or.inl rfl
  | @long place name rest hdir h =>
    rw [hw.walk_long hdir (hn name (by simp)) h]
    exact Or.inr ⟨⟨name, by simp, h⟩, rfl⟩

end CrudQueries.Files.Tree
