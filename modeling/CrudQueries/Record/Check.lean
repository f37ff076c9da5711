/-
  CrudQueries.Record.Check — reading typed records from values.

  A check turns a value into what it stands for or says all that is wrong with it. Checks are
  lenient: a number may be given by a text, a truth value by a word or a number. A record is
  read field by field (`required`, `optional`) and the issues of all fields are collected
  (`Checked` as an applicative functor), then those of the names that belong to no field
  (`closed`). A field may be given by its alias or by its name; when both are there the alias
  counts and the name is an unknown one.
-/

import CrudQueries.Data.Value
import CrudQueries.Record.Issue
import CrudQueries.Record.Numeral
import CrudQueries.Text.Utf8

namespace CrudQueries.Record

open CrudQueries.Data (Value)

-- Powers are those of the core library, whatever else is imported.
attribute [local instance (high)] instPowNat

/-- A result, or everything that is wrong. -/
inductive Checked (α : Type) where
  | ok (value : α)
  | bad (issues : List Issue)

namespace Checked

def map {α β : Type} (f : α → β) : Checked α → Checked β
  | ok a => ok (f a)
  | bad issues => bad issues

/-- Both results; the issues of the first come before those of the second. -/
def seq {α β : Type} (f : Checked (α → β)) (x : Checked α) : Checked β :=
  match f, x with
  | ok f, ok a => ok (f a)
  | ok _, bad issues => bad issues
  | bad issues, ok _ => bad issues
  | bad issues, bad more => bad (issues ++ more)

instance : Functor Checked where
  map := map

instance : Applicative Checked where
  pure := ok
  seq f x := f.seq (x ())

/-- The issues, seen from one step further out. -/
def inside {α : Type} (step : Step) : Checked α → Checked α
  | ok a => ok a
  | bad issues => bad (issues.map (·.inside step))

def flaw {α : Type} (f : Flaw) : Checked α := bad [⟨f, []⟩]

/-- The results of a list of checks, in order. -/
def all {α : Type} : List (Checked α) → Checked (List α)
  | [] => ok []
  | c :: cs => (c.map List.cons).seq (all cs)

/-- The result, or a refusal in the name of `model`. -/
def toExcept {α : Type} (model : String) : Checked α → Except Rejection α
  | ok a => .ok a
  | bad issues => .error ⟨model, issues⟩

end Checked

/-- A check of values of one kind. -/
abbrev Check (α : Type) := Value → Checked α

namespace Check

/-- The text of a value that is a text or bytes. -/
def textOf? : Value → Option (Except Unit String)
  | .text s => some (.ok s)
  | .bytes b =>
    match Text.Utf8.decode ⟨b.toArray⟩ with
    | .ok s => some (.ok s)
    | .error _ => some (.error ())
  | _ => none

/-- Any text. -/
def text : Check String := fun v =>
  match textOf? v with
  | some (.ok s) => .ok s
  | some (.error ()) => .flaw .textEncoding
  | none => .flaw .text

/-- A text that is not empty. -/
def filledText : Check String := fun v =>
  match text v with
  | .ok s => if s.isEmpty then .flaw .shortText else .ok s
  | .bad issues => .bad issues

/-- Nothing, or what `check` accepts. -/
def orNull {α : Type} (check : Check α) : Check (Option α)
  | .null => .ok none
  | v => (check v).map some

/-- A whole number. -/
def whole : Check Int := fun v =>
  match v with
  | .bool b => .ok (if b then 1 else 0)
  | .int n => .ok n
  | .float x =>
    match x.ratio? with
    | none => .flaw .finite
    | some (num, den) =>
      if num % den != 0 then .flaw .wholeFraction
      else if (num / den).natAbs < 2 ^ (63 : Nat) then .ok (num / den)
      else .flaw .wholeSize
  | _ =>
    match textOf? v with
    | none => .flaw .whole
    | some (.error ()) => .flaw .wholeText
    | some (.ok s) =>
      match Numeral.whole? s with
      | none => .flaw .wholeText
      | some n => if s.length > Numeral.lengthLimit then .flaw .wholeSize else .ok n

/-- A whole number that is not below `least`. -/
def wholeFrom (least : Nat) : Check Nat := fun v =>
  match whole v with
  | .ok n => if n < least then .flaw (.atLeast least) else .ok n.toNat
  | .bad issues => .bad issues

/-- A truth value. -/
def truth : Check Bool := fun v =>
  match v with
  | .bool b => .ok b
  | .int n => if n == 0 then .ok false else if n == 1 then .ok true else .flaw .truthText
  | .float x =>
    match x.toInt? with
    | some 0 => .ok false
    | some 1 => .ok true
    | _ => .flaw .truth
  | _ =>
    match textOf? v with
    | none => .flaw .truth
    | some (.error ()) => .flaw .truthText
    | some (.ok s) =>
      match Numeral.truth? s with
      | some b => .ok b
      | none => .flaw .truthText

/-- The members of a sequence, each checked at its position. -/
def members {α : Type} (check : Check α) (items : List Value) : Checked (List α) :=
  .all (items.zipIdx.map fun (v, i) => (check v).inside (.index i))

/-- The members of a value that is a sequence. -/
def items? : Value → Option (List Value)
  | .list items => some items
  | .set items => some items
  | .pair a b => some [a, b]
  | _ => none

/-- A sequence of values of one kind; `flaw` is the flaw of a value that is none. -/
def sequence {α : Type} (flaw : Flaw) (check : Check α) : Check (List α) := fun v =>
  match items? v with
  | some items => members check items
  | none => .flaw flaw

/-- A record of `model`, read from its entries. -/
def record {α : Type} (model : String) (read : List (Value × Value) → Checked α) : Check α
  | .map entries => read entries
  | _ => .flaw (.record model)

end Check

/-! ## Fields -/

/-- The names of a field: the one by which it is given first of all, and its own. -/
structure FieldName where
  label : String
  name : String
  deriving DecidableEq, Repr

/-- A field with one name. -/
def FieldName.of (name : String) : FieldName := ⟨name, name⟩

/-- The name under which the entries give a field, and its value. -/
def FieldName.find? (field : FieldName) (entries : List (Value × Value)) : Option (String × Value) :=
  match Value.field? entries field.label with
  | some v => some (field.label, v)
  | none => (Value.field? entries field.name).map fun v => (field.name, v)

/-- A field that must be given. -/
def required {α : Type} (field : FieldName) (check : Check α) (entries : List (Value × Value)) : Checked α :=
  match field.find? entries with
  | some (_, v) => (check v).inside (.name field.label)
  | none => (Checked.flaw .missing).inside (.name field.label)

/-- A field with a default. -/
def optional {α : Type} (field : FieldName) (default : α) (check : Check α)
    (entries : List (Value × Value)) : Checked α :=
  match field.find? entries with
  | some (_, v) => (check v).inside (.name field.label)
  | none => .ok default

/-- The place of an unknown key. -/
def keyStep : Value → Step
  | .text s => .name s
  | .int n => .number n
  | .bool b => .number (if b then 1 else 0)
  | v => .name v.shown

/-- The issue with an entry whose key names no field among those in use. -/
def strayKey? (used : List String) (key : Value) : Option Issue :=
  match key with
  | .text s => if used.contains s then none else some ⟨.unknown, [.name s]⟩
  | key => some ⟨.key, [keyStep key]⟩

/-- `record`, refused also for every entry that gives none of its fields. -/
def closed {α : Type} (fields : List FieldName) (record : List (Value × Value) → Checked α)
    (entries : List (Value × Value)) : Checked α :=
  let used := fields.filterMap fun field => (field.find? entries).map (·.1)
  let stray := entries.filterMap fun (key, _) => strayKey? used key
  let rest : Checked Unit := if stray.isEmpty then .ok () else .bad stray
  ((record entries).map fun a _ => a).seq rest

end CrudQueries.Record
