/-
  CrudQueries.Data.Yaml.Reader — the value of a YAML text.

  Collections are filled level by level: what is wrong with a shallow value counts before what is
  wrong with a deep one, and on one level the first counts (`firstFault`). A mapping takes the
  entries of those that are merged into it before its own, so its own win.
-/

import CrudQueries.Data.Yaml.Lexer
import CrudQueries.Data.Yaml.Meaning
import CrudQueries.Data.Yaml.Node

namespace CrudQueries.Data.Yaml

/-- What is wrong with a value, and how many levels deep. -/
structure Fault where
  depth : Nat
  error : ReadError

abbrev Built (α : Type) := Except Fault α

/-- A part, seen from the collection that holds it. -/
def deeper {α : Type} (b : Built α) : Built α := b.mapError fun f => { f with depth := f.depth + 1 }

def fault {α : Type} (e : ReadError) : Built α := .error ⟨0, e⟩

/-- The shallowest fault, of equally deep ones the first. -/
def firstFault : List Fault → Option Fault
  | [] => none
  | f :: rest =>
    match firstFault rest with
    | some g => if g.depth < f.depth then some g else some f
    | none => some f

/-- All values, or the fault that counts. -/
def together {α : Type} (parts : List (Built α)) : Built (List α) :=
  let faults := parts.filterMap fun
    | .error f => some f
    | .ok _ => none
  match firstFault faults with
  | some f => .error f
  | none => .ok (parts.filterMap Except.toOption)

/-! ## Merging -/

mutual

/-- The entries that are merged into a mapping, and its own. -/
def split : List (Node × Node) → Except ReadError (List (Node × Node) × List (Node × Node))
  | [] => .ok ([], [])
  | (k, v) :: rest => do
    if k.kind == .merge then
      let more ← mergedFrom v
      let (merged, own) ← split rest
      .ok (more ++ merged, own)
    else
      let (merged, own) ← split rest
      let k := match k with
        | .scalar .default s => .scalar .text s
        | k => k
      .ok (merged, (k, v) :: own)

/-- The entries that a merged value gives: its own, or those of its items, the first of which win. -/
def mergedFrom : Node → Except ReadError (List (Node × Node))
  | .mapping _ entries => do
    let (merged, own) ← split entries
    .ok (merged ++ own)
  | .sequence _ items => do
    let all ← mergedFromAll items
    .ok all.reverse.flatten
  | .hollow _ true => .ok []
  | _ => .error .malformed

def mergedFromAll : List Node → Except ReadError (List (List (Node × Node)))
  | [] => .ok []
  | .mapping _ entries :: rest => do
    let (merged, own) ← split entries
    .ok ((merged ++ own) :: (← mergedFromAll rest))
  | .hollow _ true :: rest => do .ok ([] :: (← mergedFromAll rest))
  | _ :: _ => .error .malformed

end

/-- The entries of a mapping with those merged into it. -/
def mergedEntries (entries : List (Node × Node)) : Except ReadError (List (Node × Node)) := do
  let (merged, own) ← split entries
  .ok (merged ++ own)

/-! ## Values -/

/-- The text of a node that is asked for one: a scalar, or the default value of a mapping. -/
def scalarText? : Node → Option String
  | .scalar _ s => some s
  | .mapping _ entries => ofEntries entries
  | _ => none
where
  ofEntries : List (Node × Node) → Option String
    | [] => none
    | (k, v) :: rest => if k.kind == .default then scalarText? v else ofEntries rest

/-- The value of a node that is no collection by its kind. -/
def plainValue (n : Node) : Built Value :=
  match n with
  | .scalar kind s => (scalarValue kind s).mapError fun e => ⟨0, e⟩
  | _ =>
    match scalarText? n with
    | some s => (scalarValue n.kind s).mapError fun e => ⟨0, e⟩
    | none => fault .malformed

/-- The value of a node. -/
def build (fuel : Nat) (n : Node) : Built Value :=
  match fuel with
  | 0 => fault .malformed
  | fuel + 1 =>
    let pairOf (n : Node) : Built Value :=
      match n with
      | .mapping _ [(k, v)] => do
        match ← together [build fuel k, build fuel v] with
        | [k, v] => .ok (.pair k v)
        | _ => fault .malformed
      | _ => fault .malformed
    let keyOf (n : Node) : Built Value := if n.kind.isCollection then fault .malformed else build fuel n
    let entriesOf (entries : List (Node × Node)) : Built (List (Value × Value)) := do
      let entries ← (mergedEntries entries).mapError fun e => ⟨0, e⟩
      let parts ← together (entries.flatMap fun (k, v) => [keyOf k, build fuel v])
      .ok (Value.ofPairs (inPairs parts))
    if !n.kind.isCollection then plainValue n
    else
      deeper <| match n.kind, n with
        | .sequence, .sequence _ items => (together (items.map (build fuel))).map .list
        | .orderedPairs, .sequence _ items | .pairs, .sequence _ items => (together (items.map pairOf)).map .list
        | .mapping, .mapping _ entries => (entriesOf entries).map .map
        | .set, .mapping _ entries => (entriesOf entries).map fun entries => .set (entries.map (·.1))
        | .mapping, .hollow _ true => .ok (.map [])
        | .sequence, .hollow _ false => .ok (.list [])
        | _, .hollow _ _ => .ok (.list [])
        | _, _ => fault .malformed
where
  /-- A list with each two neighbours together. -/
  inPairs : List Value → List (Value × Value)
    | k :: v :: rest => (k, v) :: inPairs rest
    | _ => []

/-- The value of a text; a text without a document is null. -/
def read (s : String) : Except ReadError Value := do
  let tokens := tokens s
  match ← Node.ofTokens tokens with
  | none => .ok .null
  | some n => (build (2 * tokens.length + 2) n).mapError (·.error)

end CrudQueries.Data.Yaml
