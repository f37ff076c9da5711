/-
  CrudQueries.Source.Outline — the classes of a source, and what is declared on them.

  Classes are listed in the order of the source, the outer before the inner ones. A decorator
  is named by its last part, called or not. The arguments of a marker are texts or they are
  malformed. The table of a class is the text that the first assignment to `TableName` in its
  body gives; any other value there leaves it unknown.
-/

import CrudQueries.Source.Tree

namespace CrudQueries.Source

/-- A class definition. -/
structure ClassDef where
  name : String
  line : Nat
  decorators : List Expr
  body : List Stmt
  deriving Inhabited

mutual

/-- The classes in a statement, outer before inner ones. -/
def Stmt.classes : Stmt → List ClassDef
  | .classDef name line decorators body => ⟨name, line, decorators, body⟩ :: Stmt.classesOf body
  | .block body => Stmt.classesOf body
  | _ => []

/-- The classes in statements, in order. -/
def Stmt.classesOf : List Stmt → List ClassDef
  | [] => []
  | s :: rest => Stmt.classes s ++ Stmt.classesOf rest

end

/-- The last part of the name of an expression that is a name or an attribute. -/
def Expr.lastName? : Expr → Option String
  | .name s => some s
  | .attribute _ s => some s
  | _ => none

/-- The name of a decorator, called or not. -/
def Expr.decoratorName? : Expr → Option String
  | .call _ callee _ _ => callee.lastName?
  | e => e.lastName?

/-- The text of an expression that is one. -/
def Expr.text? : Expr → Option String
  | .text s => some s
  | _ => none

/-- The arguments of a decorator; what is no text is missing. -/
def Expr.markerArguments : Expr → List (Option String)
  | .call _ _ args _ => args.map Expr.text?
  | _ => []

/-- The line of a call that has arguments with names. -/
def Expr.namedArgumentsLine? : Expr → Option Nat
  | .call line _ _ true => some line
  | _ => none

/-- The decorators of a class that are the marker. -/
def ClassDef.markers (c : ClassDef) (marker : String) : List Expr :=
  c.decorators.filter fun d => d.decoratorName? == some marker

def Expr.isNamed (s : String) : Expr → Bool
  | .name t => s == t
  | _ => false

/-- What a statement assigns to the name `s`: nothing, or a value that may be missing. -/
def Stmt.assigned? (s : String) : Stmt → Option (Option Expr)
  | .assign targets value => if targets.any (Expr.isNamed s) then some (some value) else none
  | .annotate target value => if target.isNamed s then some value else none
  | _ => none

/-- The text that the first assignment to the name `s` gives. -/
def assignedText (s : String) (body : List Stmt) : Option String :=
  ((body.findSome? (Stmt.assigned? s)).join).bind Expr.text?

end CrudQueries.Source
