import SyntaxReport.Command.Arguments
import SyntaxReport.Command.Disk
import SyntaxReport.Command.Flag
import SyntaxReport.Command.Path
import SyntaxReport.Command.Run
import SyntaxReport.Command.Surroundings
import SyntaxReport.Command.Word
import SyntaxReport.Line.Breaks
import SyntaxReport.Line.Rendered
import SyntaxReport.Line.Tabs
import SyntaxReport.Main
import SyntaxReport.Message.Vocabulary
import SyntaxReport.Message.Wording
import SyntaxReport.Report.Anchor
import SyntaxReport.Report.Draft
import SyntaxReport.Report.Failure
import SyntaxReport.Sequence
import SyntaxReport.Settings.Basic
import SyntaxReport.Settings.Change
import SyntaxReport.Settings.Document
import SyntaxReport.Settings.Loose
import SyntaxReport.Settings.Options
import SyntaxReport.Snippet.Formatter
import SyntaxReport.Snippet.Gutter
import SyntaxReport.Source.Position
import SyntaxReport.Source.Span
import SyntaxReport.Source.Token
import SyntaxReport.Text.Basic
import SyntaxReport.Text.Blank
import SyntaxReport.Text.Count
import SyntaxReport.Text.Decimal
import SyntaxReport.Text.Digit
import SyntaxReport.Text.Displayed
import SyntaxReport.Text.Json
import SyntaxReport.Text.Literal
import SyntaxReport.Text.Numeral
import SyntaxReport.Text.Printable
import SyntaxReport.Text.Utf8
import SyntaxReport.Toml.Document
import SyntaxReport.Toml.Moment
import SyntaxReport.Toml.Number
import SyntaxReport.Toml.Quoted
import SyntaxReport.Toml.Table
import SyntaxReport.Tree.Basic
import SyntaxReport.Tree.Generate
import SyntaxReport.Value.Basic
import SyntaxReport.Value.Moment
import SyntaxReport.Value.Rule
import SyntaxReport.Walk.Basic
import SyntaxReport.Walk.Events
import SyntaxReport.Walk.Frame
import SyntaxReport.Walk.Listener
import SyntaxReport.Walk.Script
import SyntaxReport.Walk.Store
import SyntaxReport.Walk.Strategy
import SyntaxReport.Proofs.Walk.Nodes
import SyntaxReport.Proofs.Walk.Equivalence
import SyntaxReport.Proofs.Line.Columns
import SyntaxReport.Proofs.Line.Pieces
import SyntaxReport.Proofs.Outcome
import SyntaxReport.Proofs.Snippet.Gutter
import SyntaxReport.Proofs.Snippet.Fits
import SyntaxReport.Proofs.Snippet.Marks
import SyntaxReport.Proofs.Source.Offsets
import SyntaxReport.Proofs.Snippet.TokenMarks
import SyntaxReport.Proofs.Snippet.Unlocated
import SyntaxReport.Proofs.Snippet.Emitted
import SyntaxReport.Proofs.Line.Expansion
import SyntaxReport.Proofs.Snippet.Congruence
import SyntaxReport.Proofs.Snippet.Expansion
import SyntaxReport.Proofs.Command.Stages
import SyntaxReport.Proofs.Report.Session
import SyntaxReport.Proofs.Snippet.BreakStyle
import SyntaxReport.Proofs.Command.ExitStatus
import SyntaxReport.Proofs.Walk.Nesting
import SyntaxReport.Proofs.Walk.Rebuilding
import SyntaxReport.Proofs.Settings.Reachable
import SyntaxReport.Proofs.Snippet.Locality
import SyntaxReport.Proofs.Snippet.FinalBreaks
import SyntaxReport.Proofs.Snippet.Window
import SyntaxReport.Proofs.Snippet.EndOfInput
import SyntaxReport.Proofs.Snippet.Context
import SyntaxReport.Proofs.Source.LastCharacter
import SyntaxReport.Proofs.Settings.OptionTable
import SyntaxReport.Proofs.Walk.Dispatch
import SyntaxReport.Proofs.Snippet.CustomGutter
import SyntaxReport.Proofs.Command.Flags
import SyntaxReport.Proofs.Command.Layers
import SyntaxReport.Proofs.Message.LatestNames
import SyntaxReport.Proofs.Settings.Indent
import SyntaxReport.Proofs.Source.Description
import SyntaxReport.Proofs.Line.Decomposition
import SyntaxReport.Proofs.Line.Alignment
import SyntaxReport.Proofs.Message.SingleLine
import SyntaxReport.Proofs.Report.Causes
import SyntaxReport.Proofs.Snippet.DocumentGutter
import SyntaxReport.Proofs.Tree.Shape
import SyntaxReport.Proofs.Walk.Steps
import SyntaxReport.Proofs.Tree.Counting
import SyntaxReport.Proofs.Tree.Random
import SyntaxReport.Proofs.Tree.Complete
