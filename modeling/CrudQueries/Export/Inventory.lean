/-
  CrudQueries.Export.Inventory — the files of an export, and the text that lists them.

  The text names no time and no place outside of the output, so it depends on the files alone.
-/

import CrudQueries.Data.Json.Writer
import CrudQueries.Digest.Sha256
import CrudQueries.Text.Lines
import CrudQueries.Text.Utf8

namespace CrudQueries.Export

open CrudQueries.Data (Value)

-- An empty sum is the numeral, whatever else is imported.
attribute [local instance (high)] Zero.ofOfNat0

/-- A file of an export: its path below the output directory, where that is, and its metrics. -/
structure FileRecord where
  path : String
  absolute : String := ""
  sizeBytes : Int
  lineCount : Int
  digest : String
  deriving DecidableEq, Repr

/-- The record of a file with the given content. -/
def FileRecord.of (path absolute content : String) : FileRecord where
  path
  absolute
  sizeBytes := content.utf8ByteSize
  lineCount := Text.countLines content
  digest := Digest.Sha256.hex (Text.Utf8.encode content)

structure Inventory where
  version : String := ""
  language : String := ""
  output : String := ""
  totalFiles : Int := 0
  totalBytes : Int := 0
  totalLines : Int := 0
  files : List FileRecord := []
  deriving DecidableEq, Repr

namespace Inventory

/-- The inventory of files that were written below `output`. -/
def of (version language output : String) (files : List FileRecord) : Inventory where
  version
  language
  output
  totalFiles := files.length
  totalBytes := (files.map (·.sizeBytes)).sum
  totalLines := (files.map (·.lineCount)).sum
  files

/-- A mapping with texts as keys. -/
def mapping (entries : List (String × Value)) : Value := .map (entries.map fun (k, v) => (.text k, v))

def fileValue (f : FileRecord) : Value := mapping [
  ("relative_path", .text f.path), ("size_bytes", .int f.sizeBytes), ("line_count", .int f.lineCount),
  ("sha256", .text f.digest)]

/-- The inventory as a value. -/
def toValue (i : Inventory) : Value := mapping [
  ("generator_version", .text i.version), ("language", .text i.language), ("total_files", .int i.totalFiles),
  ("total_bytes", .int i.totalBytes), ("total_lines", .int i.totalLines),
  ("files", .list (i.files.map fileValue))]

/-- The text of the inventory. -/
def text (i : Inventory) (layout : Data.Json.Layout := .steps 2) : String :=
  Data.Json.write layout i.toValue ++ "\n"

/-- The name of the file that holds the text. -/
def fileName : String := "manifest.json"

end Inventory

end CrudQueries.Export
