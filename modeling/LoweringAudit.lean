import LoweringAudit.Audit.Report
import LoweringAudit.Audit.Run
import LoweringAudit.Audit.Sink
import LoweringAudit.Audit.Verdict
import LoweringAudit.Builtin
import LoweringAudit.Case.Json
import LoweringAudit.Catalog.Basic
import LoweringAudit.Catalog.Fma4
import LoweringAudit.Catalog.Format
import LoweringAudit.Catalog.Source
import LoweringAudit.CommandLine.Command
import LoweringAudit.CommandLine.Help
import LoweringAudit.CommandLine.Options
import LoweringAudit.Config.Basic
import LoweringAudit.Config.File
import LoweringAudit.Config.Format
import LoweringAudit.Engine.Basic
import LoweringAudit.Engine.Command
import LoweringAudit.Engine.Reference
import LoweringAudit.Engine.Rules
import LoweringAudit.Engine.Template
import LoweringAudit.Fault
import LoweringAudit.Feature
import LoweringAudit.Files.Basic
import LoweringAudit.Files.Path
import LoweringAudit.Files.Standard
import LoweringAudit.Files.Tree
import LoweringAudit.Json.Basic
import LoweringAudit.Json.Literal
import LoweringAudit.Json.Printer
import LoweringAudit.Json.Reader
import LoweringAudit.Log.Basic
import LoweringAudit.Log.Filter
import LoweringAudit.Main
import LoweringAudit.Proofs.Audit.Calls
import LoweringAudit.Proofs.Audit.LifeCycle
import LoweringAudit.Proofs.Audit.Limit
import LoweringAudit.Proofs.Audit.Run
import LoweringAudit.Proofs.Audit.Verdict
import LoweringAudit.Proofs.Catalog.Blame
import LoweringAudit.Proofs.Catalog.Checking
import LoweringAudit.Proofs.Catalog.Grammar
import LoweringAudit.Proofs.Catalog.Listing
import LoweringAudit.Proofs.Catalog.RoundTrip
import LoweringAudit.Proofs.Earliest
import LoweringAudit.Proofs.Paired
import LoweringAudit.Proofs.Text.Pieces
import LoweringAudit.Regex.Basic
import LoweringAudit.Regex.Fault
import LoweringAudit.Regex.Meaning
import LoweringAudit.Regex.Nesting
import LoweringAudit.Regex.Octets
import LoweringAudit.Regex.Parse
import LoweringAudit.Regex.Reader
import LoweringAudit.Regex.Size
import LoweringAudit.Regex.Written
import LoweringAudit.Shell.Arithmetic
import LoweringAudit.Shell.Editor.Basic
import LoweringAudit.Shell.Editor.Parse
import LoweringAudit.Shell.Editor.Reader
import LoweringAudit.Shell.Editor.Replacement
import LoweringAudit.Shell.Editor.Run
import LoweringAudit.Shell.Escape
import LoweringAudit.Shell.Expansion
import LoweringAudit.Shell.Fields
import LoweringAudit.Shell.Floating
import LoweringAudit.Shell.Number
import LoweringAudit.Shell.Octet
import LoweringAudit.Shell.Pattern
import LoweringAudit.Shell.Place
import LoweringAudit.Shell.Printf
import LoweringAudit.Shell.Programs
import LoweringAudit.Shell.Redirection
import LoweringAudit.Shell.Run
import LoweringAudit.Shell.Script
import LoweringAudit.Shell.Source
import LoweringAudit.Shell.State
import LoweringAudit.Shell.Test
import LoweringAudit.Shell.Token
import LoweringAudit.Shell.Tool.Basic
import LoweringAudit.Shell.Tool.Columns
import LoweringAudit.Shell.Tool.Editing
import LoweringAudit.Shell.Tool.Letters
import LoweringAudit.Shell.Tool.Matching
import LoweringAudit.Shell.Tool.Order
import LoweringAudit.Shell.Tool.Paths
import LoweringAudit.Shell.Tool.Reckoning
import LoweringAudit.Shell.Tool.Search
import LoweringAudit.Shell.Tool.Sequence
import LoweringAudit.Shell.Tool.Text
import LoweringAudit.Shell.Utility.Basic
import LoweringAudit.Shell.Utility.Permission
import LoweringAudit.Shell.Utility.Signals
import LoweringAudit.Shell.Utility.Surroundings
import LoweringAudit.Shell.Utility.Variables
import LoweringAudit.Shell.Utility.Writing
import LoweringAudit.Shell.Word
import LoweringAudit.Symbol
import LoweringAudit.Text.Ascii
import LoweringAudit.Text.Blank
import LoweringAudit.Text.CharSet
import LoweringAudit.Text.Digits
import LoweringAudit.Text.Hidden
import LoweringAudit.Text.Quoted
import LoweringAudit.Text.Search
import LoweringAudit.Text.Terminal
import LoweringAudit.Text.Utf8
import LoweringAudit.Toml.Basic
import LoweringAudit.Toml.Document
import LoweringAudit.Toml.Moment
import LoweringAudit.Toml.Number
import LoweringAudit.Toml.Text.Printer
import LoweringAudit.Toml.Text.Reader
import LoweringAudit.Trace
import LoweringAudit.Unicode.Age
import LoweringAudit.Unicode.Binary
import LoweringAudit.Unicode.Category
import LoweringAudit.Unicode.Folding
import LoweringAudit.Unicode.Property
import LoweringAudit.Unicode.Script
import LoweringAudit.Unicode.Segment
import LoweringAudit.Unicode.Table
import LoweringAudit.Proofs.Catalog.Validity
import LoweringAudit.Proofs.Text.Utf8
import LoweringAudit.Proofs.Toml.Text
import LoweringAudit.Proofs.Toml.Value
import LoweringAudit.Proofs.Toml.Document
import LoweringAudit.Proofs.Config.RoundTrip
import LoweringAudit.Proofs.Config.File
import LoweringAudit.Proofs.CommandLine.LastLine
import LoweringAudit.Proofs.CommandLine.Listing
import LoweringAudit.Proofs.CommandLine.ExitStatus
import LoweringAudit.Proofs.CommandLine.Formats
import LoweringAudit.Proofs.CommandLine.Shadowing
import LoweringAudit.Proofs.Catalog.Composition
import LoweringAudit.Proofs.Feature
import LoweringAudit.Proofs.Engine.Template
import LoweringAudit.Proofs.Engine.Substitution
import LoweringAudit.Proofs.CommandLine.Enabling
import LoweringAudit.Proofs.Audit.Reference
import LoweringAudit.Proofs.Audit.ReportLines
import LoweringAudit.Proofs.Config.Nearest
import LoweringAudit.Proofs.Config.Completion
import LoweringAudit.Proofs.CommandLine.Supply
import LoweringAudit.Proofs.Audit.Arrangement
import LoweringAudit.Proofs.Catalog.Layout
import LoweringAudit.Proofs.Case.Json
import LoweringAudit.Proofs.Symbol.Separation
import LoweringAudit.Proofs.Text.Lossy
import LoweringAudit.Proofs.Symbol.Octets
import LoweringAudit.Proofs.Audit.TraceSet
import LoweringAudit.Proofs.Engine.Intrinsics
