/-
  CrudQueries.CommandLine.Arguments — what a list of arguments asks for.

  An option has a long name, and may have a short one. A long name may be cut short as long as no
  other option begins that way, and may have its value after an equals sign. Short names without
  values may be joined, and the last one of them may be followed by its value. After two hyphens
  nothing is an option. An argument that is no option's value is not known, since there are none
  of that kind. Of two faults the first counts, an ambiguous name before all others and unknown
  arguments after all others.
-/

import CrudQueries.Settings
import CrudQueries.Text.DecimalDigit
import CrudQueries.Text.Shown

namespace CrudQueries.CommandLine

/-- What the arguments ask for. -/
structure Arguments where
  sources : Option (List String) := none
  manifest : Option String := none
  config : Option String := none
  output : Option String := none
  validateOnly : Bool := false
  toStdout : Bool := false
  language : Option Language := none
  namespaceName : Option String := none
  moduleSuffix : Option String := none
  coerceMalformed : Bool := false
  clean : Bool := false
  noStrict : Bool := false
  failOnWarnings : Bool := false
  noManifest : Bool := false
  verbosity : Nat := 0
  quiet : Bool := false
  deriving DecidableEq, Repr

/-! ## Options -/

inductive Flag where
  | help
  | version
  | source
  | manifest
  | config
  | output
  | validateOnly
  | stdout
  | language
  | namespaceName
  | moduleSuffix
  | coerceMalformed
  | clean
  | noStrict
  | failOnWarnings
  | noManifest
  | verbose
  | quiet
  deriving DecidableEq, Repr

namespace Flag

/-- The names of all options, in the order in which they are looked through. -/
def names : List (Flag × List String) := [
  (help, ["-h", "--help"]), (version, ["--version"]), (source, ["-s", "--source"]),
  (manifest, ["-m", "--manifest"]), (config, ["-c", "--config"]), (output, ["-o", "--output"]),
  (validateOnly, ["--validate-only"]), (stdout, ["--stdout"]), (language, ["-l", "--language"]),
  (namespaceName, ["--namespace"]), (moduleSuffix, ["--module-suffix"]),
  (coerceMalformed, ["--coerce-malformed"]), (clean, ["--clean"]), (noStrict, ["--no-strict"]),
  (failOnWarnings, ["--fail-on-warnings"]), (noManifest, ["--no-manifest"]), (verbose, ["-v", "--verbose"]),
  (quiet, ["-q", "--quiet"])]

/-- Every name with its option. -/
def table : List (String × Flag) := names.flatMap fun (flag, names) => names.map fun name => (name, flag)

def ofName? (name : String) : Option Flag := table.lookup name

/-- The option as messages name it. -/
def shown (f : Flag) : String := "/".intercalate ((names.lookup f).getD [])

/-- Does the option have a value? -/
def takesValue : Flag → Bool
  | source | manifest | config | output | language | namespaceName | moduleSuffix => true
  | _ => false

end Flag

/-- Why there is nothing to run. -/
inductive Stop where
  | help
  | version
  | refused (message : String)
  deriving DecidableEq, Repr

/-- A refusal that is about one option. -/
def refuse {α : Type} (f : Flag) (message : String) : Except Stop α :=
  .error (.refused ("argument " ++ f.shown ++ ": " ++ message))

/-! ## Single arguments -/

/-- Text attached to an option's name, after an equals sign or not. -/
structure Attached where
  afterEquals : Bool
  text : List Char
  deriving DecidableEq, Repr

/-- What an argument looks like. -/
inductive Item where
  | value (s : String)
  | option (f : Flag) (name : String) (attached : Option Attached)
  | unknown (s : String)
  | terminator
  deriving DecidableEq, Repr

/-- The part of an argument before its first equals sign, and the part after it. -/
def atEquals (cs : List Char) : List Char × Option Attached :=
  match cs.dropWhile (· != '=') with
  | [] => (cs, none)
  | _ :: text => (cs.takeWhile (· != '='), some ⟨true, text⟩)

/-- The options that an argument could mean which is the full name of none. -/
def candidates (cs : List Char) : List Item :=
  match cs with
  | '-' :: '-' :: _ =>
    let (head, attached) := atEquals cs
    Flag.table.filterMap fun (name, f) => if head.isPrefixOf name.toList then some (.option f name attached) else none
  | _ =>
    let short := String.ofList (cs.take 2)
    Flag.table.filterMap fun (name, f) =>
      if name == short then some (.option f name (some ⟨false, cs.drop 2⟩))
      else if cs.isPrefixOf name.toList then some (.option f name none)
      else none

/-- Does an argument look like a number below zero? -/
def isNegativeNumber (cs : List Char) : Bool :=
  match cs with
  | '-' :: digits =>
    let digits := if digits.getLast? == some '\n' then digits.dropLast else digits
    let tail := digits.dropWhile Text.isDecimal
    (tail.isEmpty && !digits.isEmpty)
      || (tail.head? == some '.' && tail.length > 1 && (tail.drop 1).all Text.isDecimal)
  | _ => false

/-- What an argument before the terminator looks like. -/
def classify (s : String) : Except Stop Item :=
  let cs := s.toList
  if cs.head? != some '-' || cs.length == 1 then .ok (.value s)
  else
    match Flag.ofName? s, atEquals cs with
    | some f, _ => .ok (.option f s none)
    | none, (head, attached) =>
      match attached, Flag.ofName? (String.ofList head) with
      | some _, some f => .ok (.option f (String.ofList head) attached)
      | _, _ =>
        match candidates cs with
        | [] => .ok (if isNegativeNumber cs || cs.contains ' ' then .value s else .unknown s)
        | [item] => .ok item
        | items => .error (.refused ("ambiguous option: " ++ s ++ " could match "
            ++ ", ".intercalate (items.filterMap fun
              | .option _ name _ => some name
              | _ => none)))

/-- What all arguments look like. -/
def classifyAll : List String → Except Stop (List Item)
  | [] => .ok []
  | "--" :: rest => .ok (.terminator :: rest.map .value)
  | s :: rest => do
    let item ← classify s
    .ok (item :: (← classifyAll rest))

/-! ## Joined options -/

/-- How an argument with options ends. -/
inductive Ending where
  | complete
  | value (f : Flag) (v : String)
  | awaits (f : Flag)
  | unknown (s : String)
  deriving DecidableEq, Repr

/-- The options without a value in an argument, and how it ends. -/
def unjoin (fuel : Nat) (f : Flag) (name : String) (attached : Option Attached) : Except Stop (List Flag × Ending) :=
  match fuel, attached with
  | 0, _ => .ok ([], .complete)
  | _, none => .ok (if f.takesValue then ([], .awaits f) else ([f], .complete))
  | fuel + 1, some a =>
    if f.takesValue then .ok ([], .value f (String.ofList a.text))
    else
      match a.text with
      | [] => refuse f "ignored explicit argument ''"
      | c :: rest =>
        if name.toList.length != 2 || a.afterEquals || c == '-' then
          refuse f ("ignored explicit argument " ++ Text.shown (String.ofList a.text))
        else
          let name := String.ofList ['-', c]
          match Flag.ofName? name with
          | none => .ok ([f], .unknown (String.ofList ('-' :: a.text)))
          | some g => do
            let attached := match rest with
              | [] => none
              | '=' :: text => some ⟨true, text⟩
              | text => some ⟨false, text⟩
            let (flags, ending) ← unjoin fuel g name attached
            .ok (f :: flags, ending)

/-! ## All arguments -/

/-- What has been read so far, and the arguments that are not known. -/
structure Reading where
  arguments : Arguments := {}
  extras : List String := []

/-- Takes an option without a value. -/
def takeFlag (a : Arguments) (f : Flag) : Except Stop Arguments :=
  match f with
  | .help => .error .help
  | .version => .error .version
  | .validateOnly => .ok { a with validateOnly := true }
  | .stdout => .ok { a with toStdout := true }
  | .coerceMalformed => .ok { a with coerceMalformed := true }
  | .clean => .ok { a with clean := true }
  | .noStrict => .ok { a with noStrict := true }
  | .failOnWarnings => .ok { a with failOnWarnings := true }
  | .noManifest => .ok { a with noManifest := true }
  | .verbose => .ok { a with verbosity := a.verbosity + 1 }
  | .quiet => .ok { a with quiet := true }
  | _ => .ok a

/-- Takes an option with its value. Sources and a manifest exclude each other. -/
def takeValue (a : Arguments) (f : Flag) (v : String) : Except Stop Arguments :=
  match f with
  | .source =>
    if a.manifest.isSome then refuse f ("not allowed with argument " ++ Flag.manifest.shown)
    else .ok { a with sources := some (a.sources.getD [] ++ [v]) }
  | .manifest =>
    if a.sources.isSome then refuse f ("not allowed with argument " ++ Flag.source.shown)
    else .ok { a with manifest := some v }
  | .config => .ok { a with config := some v }
  | .output => .ok { a with output := some v }
  | .language =>
    match Language.ofName? v with
    | some language => .ok { a with language := some language }
    | none => refuse f ("invalid choice: " ++ Text.shown v ++ " (choose from "
        ++ ", ".intercalate (Language.all.map fun l => Text.shown l.name) ++ ")")
  | .namespaceName => .ok { a with namespaceName := some v }
  | .moduleSuffix => .ok { a with moduleSuffix := some v }
  | _ => .ok a

/-- Reads what the arguments look like, one after the other. -/
def readItems (r : Reading) : List Item → Except Stop Reading
  | [] => .ok r
  | .value s :: rest => readItems { r with extras := r.extras ++ [s] } rest
  | .unknown s :: rest => readItems { r with extras := r.extras ++ [s] } rest
  | .terminator :: rest => readItems { r with extras := r.extras ++ ["--"] } rest
  | .option f name attached :: rest => do
    let (flags, ending) ← unjoin ((attached.map (·.text.length)).getD 0 + 1) f name attached
    match ending, rest with
    | .awaits g, .value v :: rest =>
      let a ← flags.foldlM takeFlag r.arguments
      readItems { r with arguments := ← takeValue a g v } rest
    | .awaits g, _ => refuse g "expected one argument"
    | .value g v, rest =>
      let a ← flags.foldlM takeFlag r.arguments
      readItems { r with arguments := ← takeValue a g v } rest
    | .unknown s, rest =>
      let a ← flags.foldlM takeFlag r.arguments
      readItems { arguments := a, extras := r.extras ++ [s] } rest
    | .complete, rest =>
      let a ← flags.foldlM takeFlag r.arguments
      readItems { r with arguments := a } rest
termination_by items => items.length

/-- What the arguments ask for. -/
def Arguments.read (args : List String) : Except Stop Arguments := do
  let r ← readItems {} (← classifyAll args)
  if r.arguments.sources.isNone && r.arguments.manifest.isNone then
    .error (.refused ("one of the arguments " ++ Flag.source.shown ++ " " ++ Flag.manifest.shown ++ " is required"))
  else if !r.extras.isEmpty then
    .error (.refused ("unrecognized arguments: " ++ " ".intercalate r.extras))
  else .ok r.arguments

end CrudQueries.CommandLine
