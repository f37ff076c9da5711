/-
  CrudQueries.Source.Tree — what a source says, as far as marked types are concerned.

  Of an expression, the forms that name something, hold a text or can be assigned to are told
  apart. Of a statement, class definitions and assignments are; any other statement is either
  the statements inside it or nothing. Parentheses leave no trace.
-/

namespace CrudQueries.Source

inductive Expr where
  | name (s : String)
  | text (s : String)
  | constant
  | attribute (of : Expr) (name : String)
  | item (of : Expr)
  | call (line : Nat) (callee : Expr) (args : List Expr) (hasKeywords : Bool)
  | starred (e : Expr)
  | tuple (items : List Expr)
  | list (items : List Expr)
  | other
  deriving Inhabited

mutual

/-- May the expression be assigned to? -/
def Expr.isTarget : Expr → Bool
  | .name _ | .attribute _ _ | .item _ => true
  | .tuple items | .list items => Expr.areTargets items
  | _ => false

/-- May all of the expressions stand in a list of targets? One of them may be starred. -/
def Expr.areTargets : List Expr → Bool
  | [] => true
  | .starred e :: rest => Expr.isTarget e && Expr.areTargets rest
  | e :: rest => Expr.isTarget e && Expr.areTargets rest

end

/-- May the expression stand to the left of an equals sign? -/
def Expr.isStarTarget : Expr → Bool
  | .starred e => e.isTarget
  | e => e.isTarget

/-- May the expression be annotated, or be combined with its value? -/
def Expr.isSingleTarget : Expr → Bool
  | .name _ | .attribute _ _ | .item _ => true
  | _ => false

mutual

/-- May the expression be deleted? -/
def Expr.isDeletable : Expr → Bool
  | .name _ | .attribute _ _ | .item _ => true
  | .tuple items | .list items => Expr.areDeletable items
  | _ => false

def Expr.areDeletable : List Expr → Bool
  | [] => true
  | e :: rest => Expr.isDeletable e && Expr.areDeletable rest

end

inductive Stmt where
  | classDef (name : String) (line : Nat) (decorators : List Expr) (body : List Stmt)
  | assign (targets : List Expr) (value : Expr)
  | annotate (target : Expr) (value : Option Expr)
  | augment (target : Expr) (value : Expr)
  | block (body : List Stmt)
  | other
  deriving Inhabited

end CrudQueries.Source
