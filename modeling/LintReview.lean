import LintReview.AddedLines
import LintReview.CommandLine
import LintReview.CommandLine.Reading
import LintReview.Diagnostic
import LintReview.Format
import LintReview.Format.LinePattern
import LintReview.Format.Pylint
import LintReview.Format.SarifLog
import LintReview.Json.Level
import LintReview.Json.Reader
import LintReview.Json.Record
import LintReview.Json.Token
import LintReview.Json.Tree
import LintReview.Json.Writer
import LintReview.LevelMap
import LintReview.Main
import LintReview.Pattern.CharSet
import LintReview.Pattern.Compilation
import LintReview.Pattern.Expr
import LintReview.Pattern.Matching
import LintReview.Pattern.Node
import LintReview.Pattern.Reader
import LintReview.Pattern.Unicode.Category
import LintReview.Pattern.Unicode.Folding
import LintReview.Pattern.Unicode.Property
import LintReview.Pattern.Unicode.Script
import LintReview.Pattern.Unicode.ScriptExtension
import LintReview.Pattern.Unicode.Word
import LintReview.Program
import LintReview.Proofs.AddedLines
import LintReview.Proofs.Format.Lines
import LintReview.Proofs.Format.Printed
import LintReview.Proofs.Json.Documents
import LintReview.Proofs.Json.Records
import LintReview.Proofs.Json.RoundTrip
import LintReview.Proofs.Json.Scanning
import LintReview.Proofs.Pattern.Attempt
import LintReview.Proofs.Pattern.CharSet
import LintReview.Proofs.Pattern.Lines
import LintReview.Proofs.Pattern.Preference
import LintReview.Proofs.Program.Machine
import LintReview.Proofs.Program.Output
import LintReview.Proofs.Program.Stages
import LintReview.Proofs.Review.CallOrder
import LintReview.Proofs.Review.Deletion
import LintReview.Proofs.Review.LiveHost
import LintReview.Proofs.Review.Marker
import LintReview.Proofs.Review.Pages
import LintReview.Proofs.Review.Propagation
import LintReview.Proofs.Review.Replacement
import LintReview.Proofs.Review.Retrying
import LintReview.Proofs.Review.RootedLog
import LintReview.Proofs.Review.Selection
import LintReview.Proofs.Review.Tools
import LintReview.Proofs.Review.Trace
import LintReview.Proofs.Sarif.Assembly
import LintReview.Proofs.Sarif.Decoding
import LintReview.Proofs.Sarif.Ingestion
import LintReview.Proofs.Sarif.Registry
import LintReview.Proofs.Sarif.Reingestion
import LintReview.Proofs.Sequence
import LintReview.Proofs.SourcePath.Canonical
import LintReview.Proofs.SourcePath.Characters
import LintReview.Proofs.SourcePath.Naming
import LintReview.Proofs.SourcePath.Resolution
import LintReview.Proofs.SourcePath.Stability
import LintReview.Proofs.SourcePath.Tidy
import LintReview.Proofs.Summary.Rows
import LintReview.Proofs.Text.Infix
import LintReview.Proofs.Text.Lines
import LintReview.Proofs.Text.Words
import LintReview.Proofs.UnifiedDiff.Grammar
import LintReview.Proofs.UnifiedDiff.Reading
import LintReview.Review.Comment
import LintReview.Review.Duration
import LintReview.Review.Gh
import LintReview.Review.Host
import LintReview.Review.Publish
import LintReview.Review.Retry
import LintReview.Sarif.Assembly
import LintReview.Sarif.Decoding
import LintReview.Sarif.Encoding
import LintReview.Sarif.Log
import LintReview.Settings
import LintReview.Settings.Reading
import LintReview.Settings.Schema
import LintReview.SourcePath
import LintReview.Sources
import LintReview.Summary
import LintReview.Text.Blank
import LintReview.Text.Decimal
import LintReview.Text.Infix
import LintReview.Text.Lines
import LintReview.Text.Utf8
import LintReview.UnifiedDiff
import LintReview.Yaml.BlockScalar
import LintReview.Yaml.Cursor
import LintReview.Yaml.Document
import LintReview.Yaml.Event
import LintReview.Yaml.Layout
import LintReview.Yaml.Scalar
import LintReview.Yaml.Token
import LintReview.Proofs.Summary.Reading
import LintReview.Proofs.Format.Messages
import LintReview.Proofs.Json.Difference
import LintReview.Proofs.Sarif.Leniency
import LintReview.Proofs.Review.Repetition
