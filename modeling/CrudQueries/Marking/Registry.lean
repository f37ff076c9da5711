/-
  CrudQueries.Marking.Registry — classes and the markers on them.

  A marker may be put on a class once, and on nothing but classes. It belongs to the class alone:
  a class that inherits from a marked one is not marked (`markOf?`), although the ordinary search
  through its ancestors finds the marker (`inheritedMark?`). Whatever else is stored in the marker's
  place counts as no marker, but keeps one from being put there. On the root of all classes nothing
  is ever stored.
-/

import CrudQueries.Data.Value
import CrudQueries.Marking.Order

namespace CrudQueries.Marking

open CrudQueries.Data (Value)

/-- A marker: the name of its class, and its fields. -/
structure Mark where
  markerName : String := "QueryFields"
  fields : List Value

/-- The display of a marker. -/
def Mark.shown (m : Mark) : String :=
  m.markerName ++ "(" ++ ", ".intercalate (m.fields.map Value.shown) ++ ")"

/-- What can lie in the marker's place on a class. -/
inductive Content where
  | mark (m : Mark)
  | other (v : Value)

def Content.mark? : Content → Option Mark
  | mark m => some m
  | other _ => none

/-- A class: its name, the positions of itself and its ancestors in the order of the search, and
  what lies in the marker's place. -/
structure Class where
  name : String
  order : List Nat
  content : Option Content := none

/-- What a marker is put on: a class, at its position, or a thing of another kind. -/
inductive Subject where
  | classAt (n : Nat)
  | other (kind : String)
  deriving DecidableEq, Repr

/-- Why a class cannot be made or marked. -/
inductive MarkError where
  | notClass (marker kind : String)
  | again (marker name : String)
  | closed (name : String)
  | sameBase (name : String)
  | noOrder (names : List String)
  | unknownClass (name : String)
  deriving DecidableEq, Repr

/-- The name of the kind of an error. -/
def MarkError.kind : MarkError → String
  | .notClass _ _ | .again _ _ | .closed _ | .sameBase _ | .noOrder _ => "TypeError"
  | .unknownClass _ => "KeyError"

def MarkError.message : MarkError → String
  | .notClass marker kind => marker ++ " can only decorate classes, not " ++ kind ++ "."
  | .again marker name => marker ++ " is already applied to " ++ name ++ "."
  | .closed name => "cannot set '__query_fields__' attribute of immutable type '" ++ name ++ "'"
  | .sameBase name => "duplicate base class " ++ name
  | .noOrder names =>
    "Cannot create a consistent method resolution\norder (MRO) for bases " ++ ", ".intercalate names
  | .unknownClass name => Text.shown name

/-- The classes, in the order in which they were made. -/
structure Registry where
  classes : List Class

namespace Registry

/-- The position of the root of all classes. -/
def root : Nat := 0

/-- The root of all classes and the class of markers. -/
def initial : Registry := ⟨[⟨"object", [0], none⟩, ⟨"QueryFields", [1, 0], none⟩]⟩

/-- The position of the last class of a name. -/
def position? (r : Registry) (name : String) : Option Nat :=
  (r.classes.reverse.findIdx? (·.name == name)).map fun n => r.classes.length - 1 - n

def require (r : Registry) (name : String) : Except MarkError Nat :=
  match r.position? name with
  | some n => .ok n
  | none => .error (.unknownClass name)

def nameAt (r : Registry) (n : Nat) : String := (r.classes[n]?.map (·.name)).getD ""

def contentAt (r : Registry) (n : Nat) : Option Content := r.classes[n]?.bind (·.content)

/-- The first position that a list has twice. -/
def repeated? : List Nat → Option Nat
  | [] => none
  | n :: rest => if rest.contains n then some n else repeated? rest

/-- The positions that a class with the given bases looks through after its own. -/
def ancestors (r : Registry) (bases : List Nat) : Except MarkError (List Nat) :=
  match bases with
  | [] => .ok [root]
  | _ =>
    match repeated? bases with
    | some n => .error (.sameBase (r.nameAt n))
    | none =>
      let orders := bases.map fun n => (r.classes[n]?.map (·.order)).getD []
      (merge (orders ++ [bases])).mapError fun stuck => .noOrder (stuck.map r.nameAt)

/-- Makes a class with the given bases. -/
def make (r : Registry) (name : String) (bases : List Nat) : Except MarkError Registry :=
  (r.ancestors bases).map fun ancestors => ⟨r.classes ++ [⟨name, r.classes.length :: ancestors, none⟩]⟩

/-- Makes a class with the last classes of the given names as bases. -/
def create (r : Registry) (name : String) (baseNames : List String) : Except MarkError Registry := do
  r.make name (← baseNames.mapM r.require)

/-- Puts something into the marker's place on a class. -/
def store (r : Registry) (n : Nat) (content : Content) : Registry :=
  ⟨r.classes.modify n fun c => { c with content := some content }⟩

/-- Puts something into the marker's place on a class, unless that is the root of all classes. -/
def assign (r : Registry) (n : Nat) (content : Content) : Except MarkError Registry :=
  if n = root then .error (.closed (r.nameAt n)) else .ok (r.store n content)

/-- Puts a marker on a class that has nothing in the marker's place yet, and gives the class back. -/
def apply (r : Registry) (m : Mark) : Subject → Except MarkError (Registry × Subject)
  | .other kind => .error (.notClass m.markerName kind)
  | .classAt n =>
    match r.contentAt n with
    | some _ => .error (.again m.markerName (r.nameAt n))
    | none => (r.assign n (.mark m)).map fun marked => (marked, .classAt n)

/-- Marks the last class of a name. -/
def mark (r : Registry) (name : String) (m : Mark) : Except MarkError Registry := do
  return (← r.apply m (.classAt (← r.require name))).1

/-- Why a value, which is no class, cannot be marked. -/
def markValue (m : Mark) (v : Value) : MarkError := .notClass m.markerName v.kind

/-- The marker of a class itself. -/
def markOf? (r : Registry) (n : Nat) : Option Mark := (r.contentAt n).bind Content.mark?

/-- The marker that the search through a class and its ancestors finds. -/
def inheritedMark? (r : Registry) (n : Nat) : Option Mark :=
  let order := (r.classes[n]?.map (·.order)).getD []
  (order.findSome? r.contentAt).bind Content.mark?

end Registry

end CrudQueries.Marking
