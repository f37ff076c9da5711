/-
  CrudQueries.Settings — what governs the search for marked types and the text of fragments.

  Settings are read from a mapping; one that is missing has its default. A single setting can
  be changed afterwards, with the same check (`assign`).
-/

import CrudQueries.Record.Check

namespace CrudQueries

open Record

/-- The languages of fragments. -/
inductive Language where
  | python
  | csharp
  deriving DecidableEq, Repr

namespace Language

def name : Language → String
  | .python => "python"
  | .csharp => "csharp"

def all : List Language := [.python, .csharp]

/-- The language of a name. -/
def ofName? (s : String) : Option Language := all.find? (·.name == s)

def check : Check Language := fun v =>
  match Check.textOf? v with
  | some (.ok s) =>
    match ofName? s with
    | some language => .ok language
    | none => .flaw .language
  | _ => .flaw .language

end Language

structure Settings where
  language : Language := .python
  namespaceName : String := "Repositories"
  markerName : String := "QueryFields"
  moduleSuffix : String := "_queries"
  mixinSuffix : String := "Queries"
  coerceMalformed : Bool := false
  includeHidden : Bool := false
  exclude : List String := []
  deriving DecidableEq, Repr

namespace Settings

/-- The name of the record in messages. -/
def model : String := "GenerationConfig"

def default : Settings := {}

/-- The name of the attribute class in C#: the marker's name, ending in `Attribute`. -/
def attributeName (s : Settings) : String :=
  if "Attribute".toList.isSuffixOf s.markerName.toList then s.markerName else s.markerName ++ "Attribute"

def isCSharp (s : Settings) : Bool := s.language == .csharp

/-! ## As a record -/

def recordFields : List FieldName :=
  ["language", "namespace", "marker_name", "module_suffix", "mixin_suffix", "coerce_malformed_fields",
    "include_hidden", "exclude"].map FieldName.of

def checkExclude : Check (List String) := Check.sequence .list Check.text

/-- The settings that entries describe. -/
def ofEntries : List (Data.Value × Data.Value) → Checked Settings :=
  closed recordFields fun entries =>
    Settings.mk
      <$> optional (.of "language") default.language Language.check entries
      <*> optional (.of "namespace") default.namespaceName Check.filledText entries
      <*> optional (.of "marker_name") default.markerName Check.filledText entries
      <*> optional (.of "module_suffix") default.moduleSuffix Check.text entries
      <*> optional (.of "mixin_suffix") default.mixinSuffix Check.filledText entries
      <*> optional (.of "coerce_malformed_fields") default.coerceMalformed Check.truth entries
      <*> optional (.of "include_hidden") default.includeHidden Check.truth entries
      <*> optional (.of "exclude") default.exclude checkExclude entries

def check : Check Settings := Check.record model ofEntries

/-- The settings with one of them changed; `none` if there is no setting of that name. -/
def assign? (s : Settings) (name : String) (v : Data.Value) : Option (Checked Settings) :=
  match name with
  | "language" => some ((Language.check v).map fun x => { s with language := x })
  | "namespace" => some ((Check.filledText v).map fun x => { s with namespaceName := x })
  | "marker_name" => some ((Check.filledText v).map fun x => { s with markerName := x })
  | "module_suffix" => some ((Check.text v).map fun x => { s with moduleSuffix := x })
  | "mixin_suffix" => some ((Check.filledText v).map fun x => { s with mixinSuffix := x })
  | "coerce_malformed_fields" => some ((Check.truth v).map fun x => { s with coerceMalformed := x })
  | "include_hidden" => some ((Check.truth v).map fun x => { s with includeHidden := x })
  | "exclude" => some ((checkExclude v).map fun x => { s with exclude := x })
  | _ => none

end Settings

end CrudQueries
