import ResourceAudit.Check.Entry
import ResourceAudit.Check.Event
import ResourceAudit.Check.Group
import ResourceAudit.Check.Outlet
import ResourceAudit.Check.Policy
import ResourceAudit.Check.Satellite
import ResourceAudit.Check.Specifiers
import ResourceAudit.Check.Steps
import ResourceAudit.Collection.Ascending
import ResourceAudit.Collection.Keyed
import ResourceAudit.CommandLine.Arguments
import ResourceAudit.CommandLine.Run
import ResourceAudit.Culture.Locale
import ResourceAudit.Culture.Name
import ResourceAudit.Culture.Tables
import ResourceAudit.Declaration.Mode
import ResourceAudit.Declaration.Parameter
import ResourceAudit.Diagnostic.Basic
import ResourceAudit.Diagnostic.Code
import ResourceAudit.Diagnostic.Finding
import ResourceAudit.Diagnostic.Line
import ResourceAudit.Diagnostic.Quoted
import ResourceAudit.Diagnostic.Result
import ResourceAudit.Diagnostic.Sink
import ResourceAudit.Failure
import ResourceAudit.Format.Item
import ResourceAudit.Format.Number
import ResourceAudit.Format.Scan
import ResourceAudit.Format.Walk
import ResourceAudit.Main
import ResourceAudit.Markup.Character
import ResourceAudit.Markup.Codec
import ResourceAudit.Markup.CodecTables
import ResourceAudit.Markup.Content
import ResourceAudit.Markup.Declarations
import ResourceAudit.Markup.Doctype
import ResourceAudit.Markup.Document
import ResourceAudit.Markup.Encoding
import ResourceAudit.Markup.Fault
import ResourceAudit.Markup.NameRanges
import ResourceAudit.Markup.Namespace
import ResourceAudit.Markup.Node
import ResourceAudit.Markup.Piece
import ResourceAudit.Markup.Reader
import ResourceAudit.Markup.Registry
import ResourceAudit.Markup.Tag
import ResourceAudit.Markup.Token
import ResourceAudit.Platform
import ResourceAudit.Project.Discovery
import ResourceAudit.Project.Files
import ResourceAudit.Project.Relay
import ResourceAudit.Proofs.Check.Address
import ResourceAudit.Proofs.Check.Agreement
import ResourceAudit.Proofs.Check.Clean
import ResourceAudit.Proofs.Check.Completion
import ResourceAudit.Proofs.Check.Copy
import ResourceAudit.Proofs.Check.Declared
import ResourceAudit.Proofs.Check.Decomposition
import ResourceAudit.Proofs.Check.Entry
import ResourceAudit.Proofs.Check.Fit
import ResourceAudit.Proofs.Check.Group
import ResourceAudit.Proofs.Check.Indexes
import ResourceAudit.Proofs.Check.Kinds
import ResourceAudit.Proofs.Check.Outlet
import ResourceAudit.Proofs.Check.Overlong
import ResourceAudit.Proofs.Check.Policies
import ResourceAudit.Proofs.Check.Quotation
import ResourceAudit.Proofs.Check.Release
import ResourceAudit.Proofs.Check.Relevance
import ResourceAudit.Proofs.Check.Satellite
import ResourceAudit.Proofs.Check.SharedSink
import ResourceAudit.Proofs.Check.Steps
import ResourceAudit.Proofs.Check.Undeclared
import ResourceAudit.Proofs.Check.Uses
import ResourceAudit.Proofs.Check.Yield
import ResourceAudit.Proofs.Collection.Attempt
import ResourceAudit.Proofs.Collection.FirstAppearance
import ResourceAudit.Proofs.Collection.Keyed
import ResourceAudit.Proofs.Collection.Reports
import ResourceAudit.Proofs.CommandLine.Lines
import ResourceAudit.Proofs.CommandLine.Totals
import ResourceAudit.Proofs.Declaration.Grammar
import ResourceAudit.Proofs.Declaration.Identifier
import ResourceAudit.Proofs.Declaration.Mode
import ResourceAudit.Proofs.Declaration.Printing
import ResourceAudit.Proofs.Declaration.Reading
import ResourceAudit.Proofs.Diagnostic.Json
import ResourceAudit.Proofs.Diagnostic.Object
import ResourceAudit.Proofs.Diagnostic.Wording
import ResourceAudit.Proofs.Format.Composition
import ResourceAudit.Proofs.Format.Faults
import ResourceAudit.Proofs.Format.Grammar
import ResourceAudit.Proofs.Format.Number
import ResourceAudit.Proofs.Format.Progress
import ResourceAudit.Proofs.Format.Recognition
import ResourceAudit.Proofs.Format.Views
import ResourceAudit.Proofs.Format.Walk
import ResourceAudit.Proofs.Markup.Encoding
import ResourceAudit.Proofs.Markup.Order
import ResourceAudit.Proofs.Project.Files
import ResourceAudit.Proofs.Project.Isolation
import ResourceAudit.Proofs.Project.Listing
import ResourceAudit.Proofs.Project.Partition
import ResourceAudit.Proofs.Project.Reading
import ResourceAudit.Proofs.Project.Relay
import ResourceAudit.Proofs.Resource.Account
import ResourceAudit.Proofs.Resource.Quotation
import ResourceAudit.Proofs.Resource.Repeats
import ResourceAudit.Proofs.Resource.Summary
import ResourceAudit.Proofs.Specifier.DateTime
import ResourceAudit.Proofs.Specifier.Duration
import ResourceAudit.Proofs.Specifier.Escapes
import ResourceAudit.Proofs.Specifier.Numeric
import ResourceAudit.Proofs.Specifier.Overlong
import ResourceAudit.Proofs.Specifier.Positions
import ResourceAudit.Proofs.Specifier.Spelling
import ResourceAudit.Proofs.Specifier.Tokens
import ResourceAudit.Proofs.Storage.Names
import ResourceAudit.Proofs.Storage.Order
import ResourceAudit.Proofs.Storage.Path
import ResourceAudit.Proofs.Storage.Walk
import ResourceAudit.Proofs.Text.Blank
import ResourceAudit.Proofs.Text.Cursor
import ResourceAudit.Proofs.Text.OneLine
import ResourceAudit.Proofs.Text.Pieces
import ResourceAudit.Proofs.Text.Run
import ResourceAudit.Resource.Document
import ResourceAudit.Resource.Entry
import ResourceAudit.Resource.Item
import ResourceAudit.Specifier.Category
import ResourceAudit.Specifier.DateTime
import ResourceAudit.Specifier.Duration
import ResourceAudit.Specifier.Numeric
import ResourceAudit.Specifier.Pattern
import ResourceAudit.Specifier.Position
import ResourceAudit.Specifier.Verdict
import ResourceAudit.Standard
import ResourceAudit.Storage.Path
import ResourceAudit.Storage.Tree
import ResourceAudit.Text.Blank
import ResourceAudit.Text.Cursor
import ResourceAudit.Text.Decimal
import ResourceAudit.Text.Pieces
import ResourceAudit.Text.Word
import ResourceAudit.Text.WordRanges
import ResourceAudit.Text.Words
