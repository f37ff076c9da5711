/-
  CrudQueries.Fragment.Marker — the text that declares the marker.

  It depends on the language, the namespace and the marker's name alone, and it carries no
  time, so declaring the marker again gives the same text.
-/

import CrudQueries.Settings
import CrudQueries.Text.Lines
import CrudQueries.Text.Quoted

namespace CrudQueries.Fragment

/-- The version that generated files and the manifest carry. -/
def version : String := "1.0.0"

/-- The attribute of a marked type that holds its fields. -/
def fieldsMember : String := "Fields"

/-- The attribute of a marked type that holds its table. -/
def tableMember : String := "TableName"

/-- The first line of every file in a language. -/
def header : Language → String
  | .python => "# Generated by queryfields " ++ version ++ ". Do not edit."
  | .csharp => "// <auto-generated>Generated by queryfields " ++ version ++ ". Do not edit.</auto-generated>"

/-- A decorator class that keeps the fields on the class it is applied to. -/
def decoratorLines (marker : String) : List String := [
  "\"\"\"Marker decorator requesting CRUD query generation.\"\"\"",
  "",
  "from typing import Tuple",
  "",
  "__all__ = [\"" ++ marker ++ "\"]",
  "",
  "_MARKER_ATTRIBUTE = \"__query_fields__\"",
  "",
  "",
  "class " ++ marker ++ ":",
  "    \"\"\"Marks a class for CRUD query generation over ``" ++ fieldsMember ++ "``.\"\"\"",
  "",
  "    __slots__ = (\"" ++ fieldsMember ++ "\",)",
  "",
  "    def __init__(self, *fields: str) -> None:",
  "        self." ++ fieldsMember ++ ": Tuple[str, ...] = tuple(fields)",
  "",
  "    def __call__(self, cls):",
  "        if not isinstance(cls, type):",
  "            raise TypeError(\"" ++ marker ++ " can only decorate classes.\")",
  "        if _MARKER_ATTRIBUTE in vars(cls):",
  "            raise TypeError(f\"" ++ marker ++ " is already applied to "
    ++ Text.Quoted.placeholder "cls.__qualname__" ++ ".\")",
  "        setattr(cls, _MARKER_ATTRIBUTE, self)",
  "        return cls"]

/-- An attribute class with the fields as its constructor's parameters. -/
def attributeLines (namespaceName attributeName : String) : List String :=
  let body := [
    "[GeneratedCode(\"queryfields\", \"" ++ version ++ "\")]",
    "[AttributeUsage(AttributeTargets.Class, Inherited = false, AllowMultiple = false)]",
    "public sealed class " ++ attributeName ++ "(params string[] fields) : Attribute",
    "\x7b",
    "    public string[] " ++ fieldsMember ++ " = fields;",
    "\x7d"]
  ["using System;", "using System.CodeDom.Compiler;", "", "namespace " ++ namespaceName, "\x7b"]
    ++ Text.indentLines body ++ ["\x7d"]

/-- The marker declaration. -/
def markerText (settings : Settings) : String :=
  let lines := match settings.language with
    | .python => decoratorLines settings.markerName
    | .csharp => attributeLines settings.namespaceName settings.attributeName
  Text.endLines (header settings.language :: lines)

end CrudQueries.Fragment
