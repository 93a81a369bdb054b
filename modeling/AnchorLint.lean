import AnchorLint.Anchor.Dialect
import AnchorLint.Anchor.Generate
import AnchorLint.Cache.Decode
import AnchorLint.Cache.Encode
import AnchorLint.Cache.File
import AnchorLint.Cache.Query
import AnchorLint.Cache.Record
import AnchorLint.CommandLine.Command
import AnchorLint.CommandLine.Console
import AnchorLint.CommandLine.Grammar
import AnchorLint.CommandLine.Report
import AnchorLint.CommandLine.Run
import AnchorLint.CommandLine.Watch
import AnchorLint.Data.Base64
import AnchorLint.Data.Calendar
import AnchorLint.Data.Json.Read
import AnchorLint.Data.Json.Write
import AnchorLint.Data.Mismatch
import AnchorLint.Data.Quantity
import AnchorLint.Data.Sorting
import AnchorLint.Data.Toml.Read
import AnchorLint.Data.Toml.Scalar
import AnchorLint.Data.Toml.Table
import AnchorLint.Data.Value
import AnchorLint.Data.Yaml.Cursor
import AnchorLint.Data.Yaml.Document
import AnchorLint.Data.Yaml.Graph
import AnchorLint.Data.Yaml.Problem
import AnchorLint.Data.Yaml.Read
import AnchorLint.Data.Yaml.Scalar
import AnchorLint.Data.Yaml.ScalarValue
import AnchorLint.Data.Yaml.Tag
import AnchorLint.Data.Yaml.Token
import AnchorLint.Document.Attribute
import AnchorLint.Document.Basic
import AnchorLint.Document.Block
import AnchorLint.Document.Comment
import AnchorLint.Document.Index
import AnchorLint.Document.Inline
import AnchorLint.Document.Line
import AnchorLint.Document.Scan
import AnchorLint.Document.Types
import AnchorLint.FileTree.Basic
import AnchorLint.FileTree.Path
import AnchorLint.FrontMatter
import AnchorLint.Link.Path
import AnchorLint.Link.Target
import AnchorLint.Lint.Finding
import AnchorLint.Lint.Linter
import AnchorLint.Lint.RecordRules
import AnchorLint.Lint.Rules
import AnchorLint.Log
import AnchorLint.Main
import AnchorLint.Markup.Run
import AnchorLint.Markup.Visible
import AnchorLint.Number.Binary64
import AnchorLint.Number.Decimal
import AnchorLint.Number.Numeral
import AnchorLint.Proofs.Anchor.Alphabet
import AnchorLint.Proofs.Anchor.Blank
import AnchorLint.Proofs.Anchor.Cut
import AnchorLint.Proofs.Anchor.Substitution
import AnchorLint.Proofs.Cache.Atomic
import AnchorLint.Proofs.Cache.File
import AnchorLint.Proofs.Cache.Plain
import AnchorLint.Proofs.Cache.Record
import AnchorLint.Proofs.Cache.Unusable
import AnchorLint.Proofs.CommandLine.Kept
import AnchorLint.Proofs.Data.Entries
import AnchorLint.Proofs.Data.Json.Kind
import AnchorLint.Proofs.Data.Json.Plain
import AnchorLint.Proofs.Data.Json.RoundTrip
import AnchorLint.Proofs.Data.Json.Scalar
import AnchorLint.Proofs.Data.Outcome
import AnchorLint.Proofs.Document.Alike
import AnchorLint.Proofs.Document.Assembly
import AnchorLint.Proofs.Document.Blocks
import AnchorLint.Proofs.Document.Breaks
import AnchorLint.Proofs.Document.Closers
import AnchorLint.Proofs.Document.CodeBlock
import AnchorLint.Proofs.Document.Columns
import AnchorLint.Proofs.Document.Comments
import AnchorLint.Proofs.Document.Exchange
import AnchorLint.Proofs.Document.Fence
import AnchorLint.Proofs.Document.Harvest
import AnchorLint.Proofs.Document.Inert
import AnchorLint.Proofs.Document.Insides
import AnchorLint.Proofs.Document.LineTable
import AnchorLint.Proofs.Document.Lines
import AnchorLint.Proofs.Document.LinkOrder
import AnchorLint.Proofs.Document.Links
import AnchorLint.Proofs.Document.Location
import AnchorLint.Proofs.Document.Lookahead
import AnchorLint.Proofs.Document.Lookup
import AnchorLint.Proofs.Document.Mask
import AnchorLint.Proofs.Document.Naming
import AnchorLint.Proofs.Document.NextLine
import AnchorLint.Proofs.Document.Outline
import AnchorLint.Proofs.Document.Pairing
import AnchorLint.Proofs.Document.Passes
import AnchorLint.Proofs.Document.Patterns
import AnchorLint.Proofs.Document.Recorded
import AnchorLint.Proofs.Document.Relocate
import AnchorLint.Proofs.Document.Reread
import AnchorLint.Proofs.Document.Search
import AnchorLint.Proofs.Document.Shape
import AnchorLint.Proofs.Document.Slot
import AnchorLint.Proofs.Document.Unclosed
import AnchorLint.Proofs.FileTree.Frame
import AnchorLint.Proofs.FileTree.Kept
import AnchorLint.Proofs.FileTree.Write
import AnchorLint.Proofs.Link.Path
import AnchorLint.Proofs.Link.Spelling
import AnchorLint.Proofs.Lint.Again
import AnchorLint.Proofs.Lint.Atomic
import AnchorLint.Proofs.Lint.Breaks
import AnchorLint.Proofs.Lint.Check
import AnchorLint.Proofs.Lint.Defects
import AnchorLint.Proofs.Lint.Files
import AnchorLint.Proofs.Lint.Incremental
import AnchorLint.Proofs.Lint.Kept
import AnchorLint.Proofs.Lint.Location
import AnchorLint.Proofs.Number.Binary64
import AnchorLint.Proofs.Number.Decimal
import AnchorLint.Proofs.Rule.Bracket
import AnchorLint.Proofs.Rule.Configured
import AnchorLint.Proofs.Rule.Course
import AnchorLint.Proofs.Rule.Coverage
import AnchorLint.Proofs.Rule.Replay
import AnchorLint.Proofs.Rule.Span
import AnchorLint.Proofs.Text.Case
import AnchorLint.Proofs.Text.Digits
import AnchorLint.Proofs.Text.Find
import AnchorLint.Proofs.Text.Order
import AnchorLint.Proofs.Text.Percent
import AnchorLint.Proofs.Text.Trim
import AnchorLint.Proofs.Text.Utf8
import AnchorLint.Proofs.Unicode.CaseMap
import AnchorLint.Proofs.Watch.Applied
import AnchorLint.Proofs.Watch.Follow
import AnchorLint.Proofs.Watch.InSync
import AnchorLint.Proofs.Watch.Relint
import AnchorLint.Proofs.Watch.Route
import AnchorLint.Proofs.Workspace.Change
import AnchorLint.Proofs.Workspace.Drive
import AnchorLint.Proofs.Workspace.Graph
import AnchorLint.Proofs.Workspace.Interleave
import AnchorLint.Proofs.Workspace.Kept
import AnchorLint.Proofs.Workspace.Version
import AnchorLint.Proofs.Workspace.View
import AnchorLint.Rule.Directive
import AnchorLint.Rule.Name
import AnchorLint.Rule.Region
import AnchorLint.Rule.Replay
import AnchorLint.Session
import AnchorLint.Settings
import AnchorLint.Storage
import AnchorLint.Text.Basic
import AnchorLint.Text.Case
import AnchorLint.Text.Digest
import AnchorLint.Text.Glob
import AnchorLint.Text.Percent
import AnchorLint.Text.Quoted
import AnchorLint.Text.Scan
import AnchorLint.Text.Utf8
import AnchorLint.Unicode.CaseMap
import AnchorLint.Unicode.Cased
import AnchorLint.Unicode.Number
import AnchorLint.Unicode.Printable
import AnchorLint.Unicode.Ranges
import AnchorLint.Unicode.Word
import AnchorLint.Watch.Pending
import AnchorLint.Watch.Relint
import AnchorLint.Workspace.Basic
import AnchorLint.Workspace.Query
import AnchorLint.Workspace.Stored
