/-
  CrudQueries.Data.Entries — lists of keys and values in the order in which keys first came.
-/

namespace CrudQueries.Data.Entries

variable {κ α : Type} [BEq κ]

/-- The entries with `key` at `value`: in its old place if it has one, else at the end. -/
def put (entries : List (κ × α)) (key : κ) (value : α) : List (κ × α) :=
  match entries with
  | [] => [(key, value)]
  | (k, v) :: rest => if k == key then (k, value) :: rest else (k, v) :: put rest key value

/-- The value of `key`. -/
def get? (entries : List (κ × α)) (key : κ) : Option α :=
  (entries.find? fun (k, _) => k == key).map (·.2)

/-- `entries` with all of `more` put into it, in order. -/
def putAll (entries more : List (κ × α)) : List (κ × α) :=
  more.foldl (fun entries (k, v) => put entries k v) entries

end CrudQueries.Data.Entries
