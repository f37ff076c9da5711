/-
  CrudQueries.Proofs.Query.Pieces — a statement as a row of pieces.

  A statement is fixed text with joins and the table in between (`Statement.pieces`), whatever the
  joins and the table are (`Statement.toList_text`). Over placeholders and a table with doubled
  braces it is therefore the body of a formatted literal with one field for each join
  (`Statement.escape_interpolated`), and where these fields are bound to the joins it stands for the
  statement (`Statement.meant_parts`).
-/

import CrudQueries.Proofs.Source.Literal
import CrudQueries.Proofs.Text.Lines
import CrudQueries.Query.Artifacts
import Mathlib.Data.List.Basic

namespace CrudQueries.Query

open CrudQueries.Source.Literal (Part written)
open CrudQueries.Text.Quoted

/-- A piece of a statement. -/
inductive Piece where
  | fixed (s : String)
  | join (j : Join)
  | table

/-- The pieces of a statement, in order. -/
def Statement.pieces : Statement → List Piece
  | .selectPage =>
    [.fixed "SELECT id,", .join .columns, .fixed ",", .fixed auditColumns, .fixed " FROM ", .table,
      .fixed " WHERE deleted IS NULL LIMIT @Num OFFSET @Start"]
  | .selectRow =>
    [.fixed "SELECT id,", .join .columns, .fixed ",", .fixed auditColumns, .fixed " FROM ", .table,
      .fixed " WHERE deleted IS NULL AND id=@Id"]
  | .insert =>
    [.fixed "INSERT INTO ", .table, .fixed " (", .join .columns, .fixed ",", .fixed auditColumns,
      .fixed ") VALUES (", .join .parameters, .fixed ",@Created,@Modified,@Deleted) RETURNING id"]
  | .update =>
    [.fixed "UPDATE ", .table, .fixed " SET ", .join .assignments,
      .fixed ",modified=@Modified WHERE deleted IS NULL AND id=@Id AND ", .fixed versionGuard]
  | .patch =>
    [.fixed "UPDATE ", .table, .fixed " SET ", .join .keepingAssignments,
      .fixed ",modified=@Modified WHERE deleted IS NULL AND id=@Id AND ", .fixed versionGuard, .fixed " AND (",
      .join .columns, .fixed ") IS DISTINCT FROM (", .join .keepingValues, .fixed ")"]
  | .delete => [.fixed "UPDATE ", .table, .fixed " SET deleted=@Now WHERE id=@Id AND deleted IS NULL"]
  | .undelete => [.fixed "UPDATE ", .table, .fixed " SET deleted=NULL WHERE id=@Id AND deleted IS NOT NULL"]

/-- What a piece contributes over `joins` and `table`. -/
def Piece.chars (joins : Joins) (table : String) : Piece → List Char
  | .fixed s => s.toList
  | .join j => (joins.get j).toList
  | .table => table.toList

theorem Statement.toList_text (s : Statement) (joins : Joins) (table : String) :
    (s.text joins table).toList = s.pieces.flatMap (Piece.chars joins table) := by
  cases s <;> unfold text pieces
  case selectPage => unfold Query.selectPage; simp [Piece.chars, Joins.get]
  case selectRow => unfold Query.selectRow; simp [Piece.chars, Joins.get]
  case insert => unfold insertRow; simp [Piece.chars, Joins.get]
  case update => unfold updateRow; simp [Piece.chars, Joins.get]
  case patch => unfold patchRow; simp [Piece.chars, Joins.get]
  case delete => unfold deleteRow; simp [Piece.chars]
  case undelete => unfold undeleteRow; simp [Piece.chars]

/-- The texts that are fixed in a statement. -/
def fixedTexts : List Piece → List String
  | [] => []
  | .fixed w :: ps => w :: fixedTexts ps
  | _ :: ps => fixedTexts ps

theorem mem_fixedTexts {w : String} {ps : List Piece} (h : .fixed w ∈ ps) : w ∈ fixedTexts ps := by
  induction ps with
  | nil => cases h
  | cons p ps ih =>
    cases p with
    | fixed v =>
      rcases List.mem_cons.mp h with hv | h
      · cases hv; exact List.mem_cons_self
      · exact List.mem_cons_of_mem _ (ih h)
    | join j => exact ih (by simpa using h)
    | table => exact ih (by simpa using h)

/-- A text on one line without braces, quotes and backslashes. -/
def isInertText (w : String) : Bool := Text.isOneLine w && w.toList.all fun c => !(['{', '}', '\\', '"'].contains c)

theorem Statement.fixed_inert {s : Statement} {w : String} (h : .fixed w ∈ s.pieces) : isInertText w = true := by
  have all : ∀ s : Statement, ∀ w ∈ fixedTexts s.pieces, isInertText w = true := by
    intro s; cases s <;> decide_cbv
  exact all s w (mem_fixedTexts h)

theorem not_mem_of_isInertText {w : String} {c : Char} (h : isInertText w = true) (hc : c ∈ ['{', '}', '\\', '"']) :
    c ∉ w.toList := by
  intro hm
  simp only [isInertText, Bool.and_eq_true] at h
  have := List.all_eq_true.mp h.2 c hm
  rw [List.contains_iff_mem.mpr hc] at this
  cases this

/-- No character that would break the line comes into a statement but from its joins and its table. -/
theorem Statement.not_mem_text {joins : Joins} {table : String} {c : Char} (hc : c ∈ ['\n', '\r', '\x00'])
    (hj : ∀ j, c ∉ (joins.get j).toList) (ht : c ∉ table.toList) (s : Statement) : c ∉ (s.text joins table).toList := by
  rw [toList_text]
  intro hm
  obtain ⟨p, hp, hm⟩ := List.mem_flatMap.mp hm
  cases p with
  | fixed w =>
    have hi := fixed_inert hp
    simp only [isInertText, Bool.and_eq_true] at hi
    exact Text.not_mem_of_isOneLine hi.1 hc hm
  | join j => exact hj j hm
  | table => exact ht hm

/-! ## As a formatted literal -/

/-- The part of a formatted literal that a piece becomes. -/
def Piece.part (table : String) : Piece → Part
  | .fixed w => .text w.toList
  | .join j => .field j.constant.toList
  | .table => .text table.toList

/-- The parts of a statement over `table`. -/
def Statement.parts (s : Statement) (table : String) : List Part := s.pieces.map (Piece.part table)

theorem get_placeholderJoins (j : Join) : placeholderJoins.get j = placeholder j.constant := by
  cases j <;> rfl

theorem Join.constant_plain (j : Join) :
    j.constant.toList ≠ [] ∧ ∀ c ∈ j.constant.toList, Source.Literal.isPlainCode c = true := by
  simp only [← List.all_eq_true]
  cases j <;> decide

theorem escape_flatMap {α : Type} (f : α → List Char) (xs : List α) :
    escape (xs.flatMap f) = xs.flatMap fun x => escape (f x) := by
  induction xs with
  | nil => rfl
  | cons x xs ih => rw [List.flatMap_cons, List.flatMap_cons, escape_append, ih]

/-- The body of a statement constant, as it is quoted. -/
theorem Statement.escape_interpolated (s : Statement) (table : String) :
    escape (s.text placeholderJoins (literalBraces table)).toList = written (s.parts table) := by
  rw [toList_text, escape_flatMap, written, parts, List.flatMap_map]
  refine List.flatMap_congr fun p hp => ?_
  cases p with
  | fixed w =>
    have hi := fixed_inert hp
    simp [Piece.chars, Piece.part, Part.written,
      doubleBraces_eq_self (not_mem_of_isInertText hi (by simp)) (not_mem_of_isInertText hi (by simp))]
  | join j =>
    have hq : ∀ d, Source.Literal.isPlainCode d = false → d ∉ j.constant.toList := fun d hd hm => by
      rw [j.constant_plain.2 d hm] at hd; cases hd
    have he : escape j.constant.toList = j.constant.toList :=
      escape_eq_self (hq '\\' (by decide)) (hq '"' (by decide))
    simp [Piece.chars, get_placeholderJoins, escape_cons, escape_append, he, escape, Piece.part, Part.written]
  | table => simp [Piece.chars, Piece.part, Part.written]

theorem fieldNames_parts {ps : List Piece} {table : String} {name : List Char}
    (h : name ∈ Source.Literal.fieldNames (ps.map (Piece.part table))) : ∃ j : Join, name = j.constant.toList := by
  induction ps with
  | nil => cases h
  | cons p ps ih =>
    cases p with
    | fixed w => exact ih h
    | table => exact ih h
    | join j =>
      rcases List.mem_cons.mp h with rfl | h
      · exact ⟨j, rfl⟩
      · exact ih h

theorem Statement.arePlain_parts (s : Statement) (table : String) : Source.Literal.arePlain (s.parts table) := by
  intro name hn
  obtain ⟨j, rfl⟩ := fieldNames_parts hn
  exact j.constant_plain

/-- Over constants that hold the joins, the parts of a statement stand for the statement. -/
theorem Statement.meant_parts {constants : List (String × List Char)} {joins : Joins}
    (h : ∀ j, constants.lookup (Join.constant j) = some (joins.get j).toList) (s : Statement) (table : String) :
    (s.parts table).flatMap (Part.meant constants) = (s.text joins table).toList := by
  rw [toList_text, parts, List.flatMap_map]
  refine List.flatMap_congr fun p _ => ?_
  cases p with
  | join j => simp [Piece.part, Part.meant, Piece.chars, String.ofList_toList, h]
  | _ => rfl

end CrudQueries.Query
