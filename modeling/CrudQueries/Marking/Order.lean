/-
  CrudQueries.Marking.Order — the order in which a class's ancestors are looked through.

  The order keeps the orders of all bases and the order of the bases themselves. It is found by
  merging those lists: of their first members, the first that none of them has further back comes
  next. If there is no such member there is no order.
-/

namespace CrudQueries.Marking

variable {α : Type} [BEq α]

-- An empty sum is the numeral, whatever else is imported.
attribute [local instance (high)] Zero.ofOfNat0

/-- Does a list have `a` after its first member? -/
def inTail (a : α) (list : List α) : Bool := (list.drop 1).contains a

/-- The first member of a list that no list has further back. -/
def nextMember? (lists : List (List α)) : Option α :=
  (lists.filterMap List.head?).find? fun a => !lists.any (inTail a)

/-- The lists without `a` at their heads. -/
def dropHead (a : α) (lists : List (List α)) : List (List α) :=
  lists.map fun list => if list.head? == some a then list.drop 1 else list

/-- The first members of the lists, each once. -/
def heads (lists : List (List α)) : List α := (lists.filterMap List.head?).eraseDups

/-- The order that keeps all lists, or the first members of those that are left when none can come
  next. -/
def mergeFrom (fuel : Nat) (lists : List (List α)) : Except (List α) (List α) :=
  if lists.all List.isEmpty then .ok []
  else
    match fuel, nextMember? lists with
    | fuel + 1, some a => (mergeFrom fuel (dropHead a lists)).map (a :: ·)
    | _, _ => .error (heads lists)

/-- The order that keeps all lists. -/
def merge (lists : List (List α)) : Except (List α) (List α) := mergeFrom (lists.map List.length).sum lists

example : (merge [[1, 0], [2, 0], [1, 2]]).toOption = some [1, 2, 0] := by decide +kernel
example : (merge [[1, 2, 0], [2, 1, 0]]).toOption = none := by decide +kernel

end CrudQueries.Marking
