/-
  CrudQueries.CommandLine.Help — the text that explains the options.
-/

import CrudQueries.Text.Lines

namespace CrudQueries.CommandLine

def programName : String := "queryfields"

/-- An option's forms and what it is for. -/
def optionHelp : List (String × String) := [
  ("-h, --help", "Show this help and exit."),
  ("--version", "Show the version and exit."),
  ("-s, --source PATH", "Python file or directory to scan (repeatable)."),
  ("-m, --manifest PATH", "JSON/YAML manifest listing entities instead of scanning."),
  ("-c, --config PATH", "JSON/YAML file with generation settings."),
  ("-o, --output DIR", "Output directory; required unless --validate-only or --stdout is set."),
  ("--validate-only", "Only run validation; write nothing."),
  ("--stdout", "Print the generated files instead of writing them."),
  ("-l, --language LANGUAGE", "Language of the generated fragments: python or csharp."),
  ("--namespace NAME", "C# namespace for the marker and partial classes."),
  ("--module-suffix SUFFIX", "Suffix of generated Python modules (default: _queries)."),
  ("--coerce-malformed", "Replace non-string marker arguments with '' instead of failing."),
  ("--clean", "Clean the output directory first; refused if it holds an input."),
  ("--no-strict", "Skip invalid entities instead of aborting."),
  ("--fail-on-warnings", "Treat validation warnings as errors."),
  ("--no-manifest", "Do not write manifest.json."),
  ("-v, --verbose", "Increase verbosity (-v for INFO, -vv for DEBUG)."),
  ("-q, --quiet", "Suppress all output except errors.")]

def helpText : String :=
  Text.endLines ([
    "usage: " ++ programName ++ " (-s PATH | -m PATH) [-o DIR] [options]",
    "",
    "Generate CRUD SQL constants for classes marked with a field list.",
    "",
    "options:"]
    ++ optionHelp.flatMap fun (forms, use) => ["  " ++ forms, "      " ++ use])

end CrudQueries.CommandLine
