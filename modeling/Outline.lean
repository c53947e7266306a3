import Outline.CommandLine.Arguments
import Outline.CommandLine.Run
import Outline.Console.Cell
import Outline.Console.Table
import Outline.Decimal.Binary64
import Outline.Decimal.Shortest
import Outline.Document.Basic
import Outline.Document.Position
import Outline.Json.Basic
import Outline.Json.Reader
import Outline.Json.Writer
import Outline.Log.Context
import Outline.Log.Level
import Outline.Main
import Outline.Pattern.Charset
import Outline.Pattern.Matcher
import Outline.Pattern.Reader
import Outline.Pattern.Syntax
import Outline.Proofs.Document.OffsetOrder
import Outline.Proofs.Document.Offsets
import Outline.Proofs.Document.WordAt
import Outline.Proofs.Document.Words
import Outline.Proofs.Json.Lines
import Outline.Proofs.Json.Reading
import Outline.Proofs.Json.RoundTrip
import Outline.Proofs.Query.Conjunction
import Outline.Proofs.Query.Delimiters
import Outline.Proofs.Query.Grammar
import Outline.Proofs.Query.Printing
import Outline.Proofs.Query.Spans
import Outline.Proofs.Query.Words
import Outline.Proofs.Record.Timestamp
import Outline.Proofs.Search.Apply
import Outline.Proofs.Search.Cycling
import Outline.Proofs.Search.Failure
import Outline.Proofs.Search.FilteredNames
import Outline.Proofs.Search.Groups
import Outline.Proofs.Search.Highlight
import Outline.Proofs.Search.History
import Outline.Proofs.Search.LineSearch
import Outline.Proofs.Search.NameLine
import Outline.Proofs.Search.NameSearch
import Outline.Proofs.Search.Narrowing
import Outline.Proofs.Search.Nearest
import Outline.Proofs.Search.Selection
import Outline.Proofs.Search.Structure
import Outline.Proofs.Session.Consistency
import Outline.Proofs.Session.Echo
import Outline.Proofs.Session.EventLine
import Outline.Proofs.Session.EventLog
import Outline.Proofs.Session.Events
import Outline.Proofs.Session.Folding
import Outline.Proofs.Session.Reopening
import Outline.Proofs.Session.Run
import Outline.Proofs.Session.Selection
import Outline.Proofs.Session.ShowAll
import Outline.Proofs.Source.Columns
import Outline.Proofs.Source.Headings
import Outline.Proofs.Source.Kinds
import Outline.Proofs.Source.Lines
import Outline.Proofs.Source.Outcome
import Outline.Proofs.Source.Ranges
import Outline.Proofs.Source.Reading
import Outline.Proofs.Source.Symbols
import Outline.Proofs.Source.Words
import Outline.Proofs.Text.Utf8
import Outline.Proofs.Tree.Ancestors
import Outline.Proofs.Tree.Build
import Outline.Proofs.Tree.Choice
import Outline.Proofs.Tree.Commute
import Outline.Proofs.Tree.Effect
import Outline.Proofs.Tree.Flags
import Outline.Proofs.Tree.Folding
import Outline.Proofs.Tree.Listing
import Outline.Proofs.Tree.Order
import Outline.Proofs.Tree.Rows
import Outline.Proofs.Tree.Symbols
import Outline.Proofs.Tree.Tour
import Outline.Proofs.Tree.Trim
import Outline.Query.Basic
import Outline.Query.Hit
import Outline.Query.KindFilter
import Outline.Query.RegexToken
import Outline.Query.Token
import Outline.Record.Check
import Outline.Record.Clock
import Outline.Record.Shapes
import Outline.Record.Timestamp
import Outline.Search.Basic
import Outline.Search.Browser
import Outline.Search.Label
import Outline.Search.Mode
import Outline.Search.Navigation
import Outline.Search.Position
import Outline.Session.Basic
import Outline.Session.Event
import Outline.Session.Id
import Outline.Session.Recorder
import Outline.Settings.Assignments
import Outline.Settings.Basic
import Outline.Settings.Check
import Outline.Settings.Load
import Outline.Source.Block
import Outline.Source.BlockReader
import Outline.Source.CaseReader
import Outline.Source.Expr
import Outline.Source.ExprPrinter
import Outline.Source.ExprReader
import Outline.Source.Formatted
import Outline.Source.Lexeme
import Outline.Source.Lexer
import Outline.Source.Literal
import Outline.Source.Reading
import Outline.Source.Symbols
import Outline.Storage.Folder
import Outline.Symbol.Forest
import Outline.Symbol.Kind
import Outline.Text.Basic
import Outline.Text.Blank
import Outline.Text.Case
import Outline.Text.CaseTable
import Outline.Text.Class
import Outline.Text.ClassTable
import Outline.Text.CodeTable
import Outline.Text.LineBreak
import Outline.Text.Normal
import Outline.Text.NormalTable
import Outline.Text.Quoted
import Outline.Text.Utf8
import Outline.Text.Width
import Outline.Text.WidthTable
import Outline.Tree.Basic
import Outline.Tree.Flags
import Outline.Tree.Insert
import Outline.Tree.Traversal
