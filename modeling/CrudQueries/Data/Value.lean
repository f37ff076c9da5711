/-
  CrudQueries.Data.Value — the values that settings and entity lists are written in.

  A value is what a JSON or YAML text says: nothing, a truth value, a number, a text, bytes, a
  day or a moment, a list, a pair, a map or a set. A map keeps its entries in the order in which their
  keys first came; a key that comes again replaces the value and keeps its place (`put`).
  Numbers are one key when they are equal, and the truth values count as one and zero, so
  `1`, `1.0` and `true` are the same key (`sameKey`).
-/

import CrudQueries.Data.Calendar
import CrudQueries.Number.Decimal
import CrudQueries.Text.Shown

namespace CrudQueries.Data

open CrudQueries.Number (Binary64)

inductive Value where
  | null
  | bool (b : Bool)
  | int (n : Int)
  | float (x : Binary64)
  | text (s : String)
  | bytes (bytes : List UInt8)
  | day (d : Day)
  | moment (m : Moment)
  | list (items : List Value)
  | pair (first second : Value)
  | map (entries : List (Value × Value))
  | set (members : List Value)
  deriving Inhabited

namespace Value

/-- The name of the kind of a value, as messages give it. -/
def kind : Value → String
  | null => "NoneType"
  | bool _ => "bool"
  | int _ => "int"
  | float _ => "float"
  | text _ => "str"
  | bytes _ => "bytes"
  | day _ => "date"
  | moment _ => "datetime"
  | list _ => "list"
  | pair _ _ => "tuple"
  | map _ => "dict"
  | set _ => "set"

/-- The text, if the value is one. -/
def text? : Value → Option String
  | text s => some s
  | _ => none

/-- Can the value be a key? -/
def isKey : Value → Bool
  | list _ | pair _ _ | map _ | set _ => false
  | _ => true

/-- The whole number that a number or truth value equals, if it equals one. -/
def whole? : Value → Option Int
  | bool b => some (if b then 1 else 0)
  | int n => some n
  | float x => x.toInt?
  | _ => none

/-- Are two keys the same? -/
def sameKey : Value → Value → Bool
  | null, null => true
  | text s, text t => s == t
  | bytes s, bytes t => s == t
  | day s, day t => s == t
  | moment s, moment t => s.same t
  | a, b =>
    match a.whole?, b.whole? with
    | some m, some n => m == n
    | none, none => match a, b with
      | float x, float y => x.sameValue y
      | _, _ => false
    | _, _ => false

/-! ## Maps -/

/-- The entries with `key` at `value`: in its old place if it has one, else at the end. -/
def put (entries : List (Value × Value)) (key value : Value) : List (Value × Value) :=
  match entries with
  | [] => [(key, value)]
  | (k, v) :: rest => if sameKey k key then (k, value) :: rest else (k, v) :: put rest key value

/-- The entries of a list of pairs, in order; a later pair replaces the value of an earlier one. -/
def ofPairs (pairs : List (Value × Value)) : List (Value × Value) :=
  pairs.foldl (fun entries (k, v) => put entries k v) []

/-- The value of `key`. -/
def get? (entries : List (Value × Value)) (key : Value) : Option Value :=
  (entries.find? fun (k, _) => sameKey k key).map (·.2)

/-- The value of the key that is the text `name`. -/
def field? (entries : List (Value × Value)) (name : String) : Option Value :=
  get? entries (text name)

/-- The entries without `key`. -/
def erase (entries : List (Value × Value)) (key : Value) : List (Value × Value) :=
  entries.filter fun (k, _) => !sameKey k key

/-- `base` with every entry of `layer` put into it, in order. -/
def overlay (base layer : List (Value × Value)) : List (Value × Value) :=
  layer.foldl (fun entries (k, v) => put entries k v) base

/-! ## Display -/

/-- One byte inside a display between `quote`s. -/
def shownByte (quote : Char) (b : UInt8) : List Char :=
  let c := Char.ofNat b.toNat
  if c == quote || c == '\\' then ['\\', c]
  else if c == '\n' then ['\\', 'n']
  else if c == '\r' then ['\\', 'r']
  else if c == '\t' then ['\\', 't']
  else if 0x20 ≤ b && b < 0x7F then [c]
  else '\\' :: 'x' :: Text.hexDigits 2 b.toNat

def shownBytes (bytes : List UInt8) : String :=
  let quote := Text.displayQuote (bytes.map fun b => Char.ofNat b.toNat)
  String.ofList ('b' :: quote :: bytes.flatMap (shownByte quote) ++ [quote])

mutual

/-- The display of a value in messages. -/
def shown : Value → String
  | null => "None"
  | bool b => if b then "True" else "False"
  | int n => toString n
  | float x => x.shown
  | text s => Text.shown s
  | bytes b => shownBytes b
  | day d => d.shown
  | moment m => m.shown
  | list items => "[" ++ ", ".intercalate (shownAll items) ++ "]"
  | pair a b => "(" ++ shown a ++ ", " ++ shown b ++ ")"
  | map entries => "\x7b" ++ ", ".intercalate (shownEntries entries) ++ "\x7d"
  | set [] => "set()"
  | set members => "\x7b" ++ ", ".intercalate (shownAll members) ++ "\x7d"

def shownAll : List Value → List String
  | [] => []
  | v :: rest => shown v :: shownAll rest

def shownEntries : List (Value × Value) → List String
  | [] => []
  | (k, v) :: rest => (shown k ++ ": " ++ shown v) :: shownEntries rest

end

end Value

end CrudQueries.Data
