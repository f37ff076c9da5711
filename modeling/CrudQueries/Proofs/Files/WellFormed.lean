/-
  CrudQueries.Proofs.Files.WellFormed — trees as file systems keep them.

  In a well-formed tree everything lies in a directory and has a name that entries can have (`WellFormed`). So all
  that leads to an entry is a directory (`WellFormed.dir_of_prefix`), and none of its names needs a closer look
  (`WellFormed.names_of_get?`).
-/

import CrudQueries.Proofs.Files.Clearing
import Mathlib.Data.List.Induction

namespace CrudQueries.Files

/-- A name that an entry can have, but for its length. -/
structure IsName (name : String) : Prop where
  notEmpty : name ≠ ""
  notHere : name ≠ "."
  notUp : name ≠ ".."
  noSlash : '/' ∉ name.toList
  notNull : '\x00' ∉ name.toList

instance (name : String) : Decidable (IsName name) :=
  decidable_of_iff (name ≠ "" ∧ name ≠ "." ∧ name ≠ ".." ∧ '/' ∉ name.toList ∧ '\x00' ∉ name.toList)
    ⟨fun ⟨hempty, hhere, hup, hslash, hnull⟩ => ⟨hempty, hhere, hup, hslash, hnull⟩,
      fun h => ⟨h.notEmpty, h.notHere, h.notUp, h.noSlash, h.notNull⟩⟩

theorem isName_replicate {n : Nat} (h : 2 < n) : IsName (String.ofList (List.replicate n 'x')) := by
  have hother : ∀ s : String, s.toList.length ≤ 2 → String.ofList (List.replicate n 'x') ≠ s := by
    rintro s hs rfl
    rw [String.toList_ofList, List.length_replicate] at hs
    omega
  exact ⟨hother _ (by decide), hother _ (by decide), hother _ (by decide), by simp, by simp⟩

theorem utf8ByteSize_replicate (n : Nat) : (String.ofList (List.replicate n 'x')).utf8ByteSize = n := by
  have hone : (String.singleton 'x').utf8ByteSize = 1 := by decide
  induction n with
  | zero => rfl
  | succ n ih =>
    rw [List.replicate_succ, String.ofList_cons, String.utf8ByteSize_append, ih]
    omega

namespace Tree

/-- Everything lies in a directory, under a name that entries can have. -/
structure WellFormed (t : Tree) : Prop where
  closed : ∀ place name e, t.get? (place ++ [name]) = some e → t.get? place = some .dir
  names : ∀ place name e, t.get? (place ++ [name]) = some e → IsName name ∧ name.utf8ByteSize ≤ maxNameSize
  here : ∀ name ∈ t.here, IsName name

variable {t : Tree} {p q : Location} {e : Entry}

theorem WellFormed.names_of_get? (hw : t.WellFormed) (h : t.get? q = some e) :
    ∀ n ∈ q, IsName n ∧ n.utf8ByteSize ≤ maxNameSize := by
  induction q using List.reverseRecOn generalizing e with
  | nil => simp
  | append_singleton place name ih =>
    intro n hn
    rcases List.mem_append.mp hn with hn | hn
    · exact ih (hw.closed place name e h) n hn
    · rw [List.mem_singleton.mp hn]
      exact hw.names place name e h

/-- All that leads to an entry is a directory. -/
theorem WellFormed.dir_of_prefix (hw : t.WellFormed) (h : t.get? q = some e) (hp : p <+: q) (hne : p ≠ q) :
    t.get? p = some .dir := by
  induction q using List.reverseRecOn generalizing e with
  | nil => exact absurd (List.prefix_nil.mp hp) hne
  | append_singleton place name ih =>
    have hplace := hw.closed place name e h
    rcases List.prefix_concat_iff.mp hp with rfl | hp
    · exact absurd rfl hne
    · by_cases hsame : p = place
      · rw [hsame, hplace]
      · exact ih hplace hp hsame

theorem exists_get? {entry : Location × Entry} (h : entry ∈ t.entries) : ∃ e, t.get? entry.1 = some e := by
  by_cases hroot : entry.1 = []
  · exact ⟨.dir, by rw [hroot, get?_nil]⟩
  · have hfound : (t.entries.find? fun k => k.1 == entry.1).isSome := List.find?_isSome.mpr ⟨entry, h, beq_self_eq_true _⟩
    obtain ⟨found, hf⟩ := Option.isSome_iff_exists.mp hfound
    exact ⟨found.2, by rw [get?_of_ne_nil t hroot, Data.Entries.get?, hf]; rfl⟩

theorem mem_of_get? (h : t.get? q = some e) (hq : q ≠ []) : (q, e) ∈ t.entries := by
  rw [get?_of_ne_nil t hq] at h
  exact Data.Entries.mem_of_get? h

/-- A tree is well-formed if all that it lists is. -/
theorem wellFormed_iff : t.WellFormed ↔
    (∀ k ∈ t.entries, k.1 ≠ [] →
      t.get? k.1.dropLast = some .dir ∧ ∀ n ∈ k.1, IsName n ∧ n.utf8ByteSize ≤ maxNameSize) ∧
    ∀ name ∈ t.here, IsName name := by
  constructor
  · intro hw
    refine ⟨fun k hk hne => ?_, hw.here⟩
    obtain ⟨e, he⟩ := exists_get? hk
    refine ⟨hw.closed _ (k.1.getLast hne) e ?_, hw.names_of_get? he⟩
    rwa [List.dropLast_concat_getLast hne]
  · rintro ⟨hk, hhere⟩
    have hlisted : ∀ {place name e}, t.get? (place ++ [name]) = some e → _ := fun h =>
      hk _ (mem_of_get? h (by simp)) (by simp)
    refine ⟨fun place name e h => ?_, fun place name e h => ?_, hhere⟩
    · have := (hlisted h).1
      rwa [List.dropLast_concat] at this
    · exact (hlisted h).2 name (by simp)

instance : Decidable t.WellFormed := decidable_of_iff _ wellFormed_iff.symm

theorem WellFormed.hasPlainNames (hw : t.WellFormed) : t.HasPlainNames := by
  intro entry hentry name hname
  obtain ⟨e, he⟩ := exists_get? hentry
  obtain ⟨h, -⟩ := hw.names_of_get? he name hname
  exact ⟨h.notHere, h.notUp⟩

end Tree

end CrudQueries.Files
