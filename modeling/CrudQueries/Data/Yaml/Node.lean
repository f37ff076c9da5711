/-
  CrudQueries.Data.Yaml.Node — the structure of a YAML text: scalars, sequences and mappings.

  A text holds one document at most. Every node has a kind, which its tag names or, for a scalar
  without quotes, its form. An alias stands for the node with the anchor of its name; inside that
  very node it stands for the node as it is before anything is in it (`hollow`).
-/

import CrudQueries.Data.Yaml.Kind
import CrudQueries.Data.Yaml.Token

namespace CrudQueries.Data.Yaml

inductive Node where
  | scalar (kind : Kind) (text : String)
  | sequence (kind : Kind) (items : List Node)
  | mapping (kind : Kind) (entries : List (Node × Node))
  | hollow (kind : Kind) (isMapping : Bool)

namespace Node

def kind : Node → Kind
  | scalar k _ | sequence k _ | mapping k _ | hollow k _ => k

/-- The node that nothing stands for. -/
def empty : Node := scalar .null ""

/-- What is left to read, the nodes that have anchors, and what the handles of tags stand for. -/
structure Reading where
  tokens : List Token
  anchors : List (String × Node) := []
  handles : List (String × String) := []

abbrev Read (α : Type) := StateT Reading (Except ReadError) α

def refuse {α : Type} : Read α := throw .malformed

/-- The next token, which stays. -/
def peek : Read Token := do
  match (← get).tokens with
  | [] => refuse
  | .fault e :: _ => throw e
  | t :: _ => pure t

def skip : Read Unit := modify fun r => { r with tokens := r.tokens.drop 1 }

/-- Takes the next token, which must be `t`. -/
def expect (t : Token) : Read Unit := do
  if (← peek) == t then skip else refuse

/-- The full name of a tag. -/
def tagName (handle : Option String) (suffix : String) : Read String := do
  match handle with
  | none => pure suffix
  | some h =>
    match (← get).handles.lookup h with
    | some expansion => pure (expansion ++ suffix)
    | none => refuse

/-- What a node can begin with: an anchor, a tag, or both in either order. -/
structure Properties where
  anchor : Option String := none
  tag : Option String := none

def readAnchor (p : Properties) : Read Properties := do
  match ← peek with
  | .anchor name =>
    skip
    pure { p with anchor := some name }
  | _ => pure p

def readTag (p : Properties) : Read Properties := do
  match ← peek with
  | .tag handle suffix =>
    skip
    let name ← tagName handle suffix
    pure { p with tag := some name }
  | _ => pure p

def properties : Read Properties := do
  match ← peek with
  | .anchor _ => readTag (← readAnchor {})
  | _ => readAnchor (← readTag {})

/-- Does the form of the node decide its kind? -/
def Properties.isOpen (p : Properties) : Bool := p.tag.isNone || p.tag == some "!"

/-- The kind of a collection. -/
def Properties.collection (p : Properties) (usual : Kind) : Kind :=
  if p.isOpen then usual else (p.tag.map Kind.ofName).getD usual

/-- The kind of a scalar. -/
def Properties.scalar (p : Properties) (text : String) (plain : Bool) : Kind :=
  match p.tag with
  | none => if plain then .ofPlain text else .text
  | some "!" => .ofPlain text
  | some name => .ofName name

/-- Gives a node the name of its anchor, which must be new. -/
def Properties.announce (p : Properties) (n : Node) : Read Unit := do
  match p.anchor with
  | none => pure ()
  | some name =>
    if ((← get).anchors.lookup name).isSome then refuse
    else modify fun r => { r with anchors := (name, n) :: r.anchors }

/-- Puts the finished node in the place of the announced one. -/
def Properties.finish (p : Properties) (n : Node) : Read Node := do
  match p.anchor with
  | none => pure n
  | some name =>
    modify fun r => { r with anchors := r.anchors.map fun (other, m) => (other, if other == name then n else m) }
    pure n

/-- Where a node stands: in a block, in a block as a value whose sequence need not be indented, or
  inside flow brackets. -/
inductive Setting where
  | block
  | value
  | flow
  deriving DecidableEq

mutual

/-- A node. -/
def read (fuel : Nat) (setting : Setting) : Read Node := do
  match fuel with
  | 0 => refuse
  | fuel + 1 =>
    match ← peek with
    | .reference name =>
      skip
      match (← get).anchors.lookup name with
      | some n => pure n
      | none => refuse
    | _ =>
      let p ← properties
      let sequence (items : Read (List Node)) : Read Node := do
        p.announce (.hollow (p.collection .sequence) false)
        p.finish (.sequence (p.collection .sequence) (← items))
      let mapping (entries : Read (List (Node × Node))) : Read Node := do
        p.announce (.hollow (p.collection .mapping) true)
        p.finish (.mapping (p.collection .mapping) (← entries))
      match ← peek, setting with
      | .entry, .value => sequence (looseItems fuel)
      | .scalar text plain, _ =>
        skip
        let n := Node.scalar (p.scalar text plain) text
        p.announce n
        pure n
      | .flowSequence, _ => sequence (do skip; flowItems fuel true)
      | .flowMapping, _ => mapping (do skip; flowEntries fuel true)
      | t, _ =>
        if t == .blockSequence && setting != .flow then sequence (do skip; blockItems fuel)
        else if t == .blockMapping && setting != .flow then mapping (do skip; blockEntries fuel)
        else if p.anchor.isSome || p.tag.isSome then do
          let n := Node.scalar (if p.isOpen then .null else p.scalar "" false) ""
          p.announce n
          pure n
        else refuse

/-- A node, unless one of the tokens follows. -/
def readUnless (fuel : Nat) (setting : Setting) (ends : List Token) : Read Node := do
  match fuel with
  | 0 => refuse
  | fuel + 1 => if ends.contains (← peek) then pure empty else read fuel setting

/-- The items of an indented sequence. -/
def blockItems (fuel : Nat) : Read (List Node) := do
  match fuel with
  | 0 => refuse
  | fuel + 1 =>
    match ← peek with
    | .entry =>
      skip
      let n ← readUnless fuel .block [.entry, .blockEnd]
      pure (n :: (← blockItems fuel))
    | _ =>
      expect .blockEnd
      pure []

/-- The items of a sequence that stands where its key does. -/
def looseItems (fuel : Nat) : Read (List Node) := do
  match fuel with
  | 0 => refuse
  | fuel + 1 =>
    match ← peek with
    | .entry =>
      skip
      let n ← readUnless fuel .block [.entry, .key, .value, .blockEnd]
      pure (n :: (← looseItems fuel))
    | _ => pure []

/-- The value after a colon; nothing if there is none. -/
def readValue (fuel : Nat) (setting : Setting) (ends : List Token) : Read Node := do
  match fuel with
  | 0 => refuse
  | fuel + 1 =>
    match ← peek with
    | .value =>
      skip
      readUnless fuel setting ends
    | _ => pure empty

/-- The entries of an indented mapping. -/
def blockEntries (fuel : Nat) : Read (List (Node × Node)) := do
  match fuel with
  | 0 => refuse
  | fuel + 1 =>
    match ← peek with
    | .key =>
      skip
      let k ← readUnless fuel .value [.key, .value, .blockEnd]
      let v ← readValue fuel .value [.key, .value, .blockEnd]
      pure ((k, v) :: (← blockEntries fuel))
    | _ =>
      expect .blockEnd
      pure []

/-- The items of a sequence in brackets; a pair of key and value is a mapping of its own. -/
def flowItems (fuel : Nat) (first : Bool) : Read (List Node) := do
  match fuel with
  | 0 => refuse
  | fuel + 1 =>
    if (← peek) == .flowSequenceEnd then
      skip
      pure []
    else
      if !first then expect .comma
      match ← peek with
      | .key =>
        skip
        let k ← readUnless fuel .flow [.value, .comma, .flowSequenceEnd]
        let v ← readValue fuel .flow [.comma, .flowSequenceEnd]
        pure (.mapping .mapping [(k, v)] :: (← flowItems fuel false))
      | .flowSequenceEnd =>
        skip
        pure []
      | _ =>
        let n ← read fuel .flow
        pure (n :: (← flowItems fuel false))

/-- The entries of a mapping in braces. -/
def flowEntries (fuel : Nat) (first : Bool) : Read (List (Node × Node)) := do
  match fuel with
  | 0 => refuse
  | fuel + 1 =>
    if (← peek) == .flowMappingEnd then
      skip
      pure []
    else
      if !first then expect .comma
      match ← peek with
      | .key =>
        skip
        let k ← readUnless fuel .flow [.value, .comma, .flowMappingEnd]
        let v ← readValue fuel .flow [.comma, .flowMappingEnd]
        pure ((k, v) :: (← flowEntries fuel false))
      | .flowMappingEnd =>
        skip
        pure []
      | _ =>
        let k ← read fuel .flow
        pure ((k, empty) :: (← flowEntries fuel false))

end

/-! ## Documents -/

def defaultHandles : List (String × String) := [("!", "!"), ("!!", Kind.common)]

/-- The handles that the directives before a document define. -/
def directives (version : Bool) (handles : List (String × String)) : List Token → Read (List (String × String))
  | .directive d :: rest => do
    skip
    match d with
    | .version major _ => if version || major != 1 then refuse else directives true handles rest
    | .handle name expansion =>
      if (handles.lookup name).isSome then refuse
      else directives version ((name, expansion) :: handles) rest
    | .other => directives version handles rest
  | _ => pure (handles ++ defaultHandles)

def skipDocumentEnds : List Token → Read Unit
  | .documentEnd :: rest => do
    skip
    skipDocumentEnds rest
  | _ => pure ()

/-- The node of a document that begins with its mark. -/
def markedDocument (fuel : Nat) : Read (Option Node) := do
  skipDocumentEnds (← get).tokens
  if (← peek) == .streamEnd then pure none
  else
    let handles ← directives false [] (← get).tokens
    modify fun r => { r with handles }
    expect .documentStart
    match ← peek with
    | .directive _ | .documentStart | .documentEnd | .streamEnd => pure (some empty)
    | _ => some <$> read fuel .block

/-- The node of the only document; nothing if there is none. -/
def document (fuel : Nat) : Read (Option Node) := do
  let n ← match ← peek with
    | .directive _ | .documentStart | .streamEnd => markedDocument fuel
    | _ => do
      modify fun r => { r with handles := defaultHandles }
      some <$> read fuel .block
  skipDocumentEnds (← get).tokens
  expect .streamEnd
  pure n

/-- The node that tokens make. -/
def ofTokens (tokens : List Token) : Except ReadError (Option Node) :=
  (document (3 * tokens.length + 8) |>.run { tokens }).map (·.1)

end Node

end CrudQueries.Data.Yaml
