import CrudQueries.CommandLine.Arguments
import CrudQueries.CommandLine.Help
import CrudQueries.CommandLine.Run
import CrudQueries.Data.Base64
import CrudQueries.Data.Calendar
import CrudQueries.Data.Entries
import CrudQueries.Data.Json.Reader
import CrudQueries.Data.Json.Writer
import CrudQueries.Data.Value
import CrudQueries.Data.Yaml.Cursor
import CrudQueries.Data.Yaml.Kind
import CrudQueries.Data.Yaml.Lexer
import CrudQueries.Data.Yaml.Meaning
import CrudQueries.Data.Yaml.Node
import CrudQueries.Data.Yaml.Reader
import CrudQueries.Data.Yaml.Scalar
import CrudQueries.Data.Yaml.Token
import CrudQueries.Digest.Sha256
import CrudQueries.Discovery.FieldValues
import CrudQueries.Discovery.ModulePath
import CrudQueries.Discovery.Scan
import CrudQueries.Discovery.Search
import CrudQueries.Discovery.SourceFiles
import CrudQueries.Entity
import CrudQueries.Export.Exporter
import CrudQueries.Export.Inventory
import CrudQueries.Export.Run
import CrudQueries.Files.Change
import CrudQueries.Files.Lookup
import CrudQueries.Files.Path
import CrudQueries.Files.Reading
import CrudQueries.Files.Tree
import CrudQueries.Files.Trouble
import CrudQueries.Fragment.Marker
import CrudQueries.Fragment.Path
import CrudQueries.Fragment.Render
import CrudQueries.Generation.Journal
import CrudQueries.Generation.Report
import CrudQueries.Generation.Run
import CrudQueries.Log
import CrudQueries.Main
import CrudQueries.Manifest.Content
import CrudQueries.Manifest.Document
import CrudQueries.Marking.Order
import CrudQueries.Marking.Registry
import CrudQueries.Number.Binary64
import CrudQueries.Number.Decimal
import CrudQueries.Proofs.Query.Pieces
import CrudQueries.Proofs.Source.Literal
import CrudQueries.Proofs.Text.Quoted
import CrudQueries.Query.Artifacts
import CrudQueries.Query.Joins
import CrudQueries.Query.Statement
import CrudQueries.Record.Check
import CrudQueries.Record.Instance
import CrudQueries.Record.Issue
import CrudQueries.Record.Numeral
import CrudQueries.Settings
import CrudQueries.Settings.Layers
import CrudQueries.Source.CharacterName
import CrudQueries.Source.Expression
import CrudQueries.Source.Keyword
import CrudQueries.Source.Lexer
import CrudQueries.Source.Literal
import CrudQueries.Source.Numeral
import CrudQueries.Source.Outline
import CrudQueries.Source.Pattern
import CrudQueries.Source.Rule
import CrudQueries.Source.Statement
import CrudQueries.Source.Token
import CrudQueries.Source.Tree
import CrudQueries.Text.Blank
import CrudQueries.Text.Case
import CrudQueries.Text.DecimalDigit
import CrudQueries.Text.Figures
import CrudQueries.Text.Glob
import CrudQueries.Text.Letter
import CrudQueries.Text.Lines
import CrudQueries.Text.Printable
import CrudQueries.Text.Quoted
import CrudQueries.Text.Shown
import CrudQueries.Text.Span
import CrudQueries.Text.Utf8
import CrudQueries.Text.Words
import CrudQueries.Timer
import CrudQueries.Validation.Diagnostic
import CrudQueries.Validation.Entity
import CrudQueries.Validation.Full
import CrudQueries.Proofs.Fragment.Constants
import CrudQueries.Proofs.Validation.Accepted
import CrudQueries.Proofs.Data.Entries
import CrudQueries.Proofs.Generation.Synthesis
import CrudQueries.Proofs.Generation.Containment
import CrudQueries.Proofs.Files.Walks
import CrudQueries.Proofs.Files.Frame
import CrudQueries.Proofs.Export.Placement
import CrudQueries.Proofs.Generation.Inputs
import CrudQueries.Proofs.Files.Clearing
import CrudQueries.Proofs.Source.Interpolation
import CrudQueries.Proofs.Source.Blocks
import CrudQueries.Proofs.Source.Forms
import CrudQueries.Proofs.Fragment.MarkerSource
import CrudQueries.Proofs.Discovery.Unmarked
import CrudQueries.Proofs.Fragment.MixinSource
import CrudQueries.Proofs.Source.ClassTokens
import CrudQueries.Proofs.Source.ClassOrder
import CrudQueries.Proofs.Discovery.Marked
import CrudQueries.Proofs.Generation.Rescan
import CrudQueries.Proofs.Validation.Position
import CrudQueries.Proofs.Validation.Flaw
import CrudQueries.Proofs.Generation.Stages
import CrudQueries.Proofs.CommandLine.ExitCode
import CrudQueries.Proofs.Generation.Accounting
import CrudQueries.Proofs.Generation.Distinct
import CrudQueries.Proofs.Files.Leading
import CrudQueries.Proofs.Export.Success
import CrudQueries.Proofs.Generation.Intake
import CrudQueries.Proofs.Generation.OnDisk
import CrudQueries.Proofs.Validation.Sound
import CrudQueries.Proofs.Generation.ValidPart
import CrudQueries.Proofs.Generation.Order
import CrudQueries.Proofs.Generation.Halt
import CrudQueries.Proofs.Generation.Prediction
import CrudQueries.Proofs.Generation.Coverage
import CrudQueries.Proofs.Files.WellFormed
import CrudQueries.Proofs.Discovery.Beside
import CrudQueries.Proofs.CommandLine.Mode
import CrudQueries.Proofs.Query.Brackets
import CrudQueries.Proofs.Query.Alignment
import CrudQueries.Proofs.Validation.FieldNames
import CrudQueries.Proofs.Query.Columns
import CrudQueries.Proofs.Query.Parameters
import CrudQueries.Proofs.Fragment.Members
import CrudQueries.Proofs.Files.Ways
import CrudQueries.Proofs.Export.EachFile
import CrudQueries.Proofs.Files.Cleared
import CrudQueries.Proofs.Export.Again
import CrudQueries.Proofs.Generation.Again
import CrudQueries.Proofs.Files.Staged
import CrudQueries.Proofs.Export.Fault
import CrudQueries.Proofs.Generation.Reported
import CrudQueries.Proofs.Export.Exporter
import CrudQueries.Proofs.Export.Accumulated
import CrudQueries.Proofs.Export.Filled
import CrudQueries.Proofs.Generation.Cleaned
import CrudQueries.Proofs.Text.Substitution
import CrudQueries.Proofs.Text.OnePass
import CrudQueries.Proofs.Text.SnakeCase
import CrudQueries.Proofs.Discovery.Selected
import CrudQueries.Proofs.Source.Binding
import CrudQueries.Proofs.Discovery.Table
import CrudQueries.Proofs.Files.Resolved
import CrudQueries.Proofs.Files.Refilled
import CrudQueries.Proofs.Discovery.Isolation
import CrudQueries.Proofs.Record.Checked
import CrudQueries.Proofs.Data.Mapping
import CrudQueries.Proofs.Record.Assignment
import CrudQueries.Proofs.Manifest.FieldList
import CrudQueries.Proofs.Settings.Precedence
import CrudQueries.Proofs.Text.Utf8
import CrudQueries.Proofs.Data.Json.Leaves
import CrudQueries.Proofs.Data.Json.RoundTrip
import CrudQueries.Proofs.Files.Written
import CrudQueries.Proofs.Manifest.Loading
import CrudQueries.Proofs.CommandLine.Settings
import CrudQueries.Proofs.Export.ReadBack
import CrudQueries.Proofs.Marking.FirstMark
import CrudQueries.Proofs.Marking.Ancestors
