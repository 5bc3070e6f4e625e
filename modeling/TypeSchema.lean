import TypeSchema.Assembly.Desk
import TypeSchema.Assembly.Error
import TypeSchema.Assembly.Inquiry
import TypeSchema.Assembly.Pool
import TypeSchema.Assembly.Resolution
import TypeSchema.Assembly.Run
import TypeSchema.Clock.Delay
import TypeSchema.Clock.Duration
import TypeSchema.CommandLine.Arguments
import TypeSchema.CommandLine.Report
import TypeSchema.CommandLine.Workspace
import TypeSchema.Files.Tree
import TypeSchema.Flow.Command
import TypeSchema.Flow.Table
import TypeSchema.Generated.Layout
import TypeSchema.Generated.Validator
import TypeSchema.Json.Basic
import TypeSchema.Json.Literal
import TypeSchema.Json.Read
import TypeSchema.Json.Write
import TypeSchema.Main
import TypeSchema.Number.Basic
import TypeSchema.Number.Binary64
import TypeSchema.Number.Decimal
import TypeSchema.Number.Numeral
import TypeSchema.Proofs.Assembly.Accounting
import TypeSchema.Proofs.Assembly.Agreement
import TypeSchema.Proofs.Assembly.Alarm
import TypeSchema.Proofs.Assembly.Confined
import TypeSchema.Proofs.Assembly.Custody
import TypeSchema.Proofs.Assembly.Desk
import TypeSchema.Proofs.Assembly.Fanout
import TypeSchema.Proofs.Assembly.Faults
import TypeSchema.Proofs.Assembly.History
import TypeSchema.Proofs.Assembly.Inquiry
import TypeSchema.Proofs.Assembly.Isolation
import TypeSchema.Proofs.Assembly.Moment
import TypeSchema.Proofs.Assembly.Notice
import TypeSchema.Proofs.Assembly.Outcome
import TypeSchema.Proofs.Assembly.Pool
import TypeSchema.Proofs.Assembly.Queries
import TypeSchema.Proofs.Assembly.Reexport
import TypeSchema.Proofs.Assembly.Resolution
import TypeSchema.Proofs.Assembly.Route
import TypeSchema.Proofs.Assembly.Settling
import TypeSchema.Proofs.Assembly.Timing
import TypeSchema.Proofs.Assembly.Tool
import TypeSchema.Proofs.Clock.Delay
import TypeSchema.Proofs.CommandLine.Effects
import TypeSchema.Proofs.Generated.Functions
import TypeSchema.Proofs.Generated.Layout
import TypeSchema.Proofs.Generated.Literals
import TypeSchema.Proofs.Generated.Sources
import TypeSchema.Proofs.Json.Documents
import TypeSchema.Proofs.Json.Equality
import TypeSchema.Proofs.Json.Fields
import TypeSchema.Proofs.Json.Parts
import TypeSchema.Proofs.Json.Script
import TypeSchema.Proofs.Number.Numerals
import TypeSchema.Proofs.Number.Rounding
import TypeSchema.Proofs.Registry.Order
import TypeSchema.Proofs.Registry.Schemas
import TypeSchema.Proofs.Result
import TypeSchema.Proofs.Run.Answers
import TypeSchema.Proofs.Run.Calls
import TypeSchema.Proofs.Run.Child
import TypeSchema.Proofs.Run.Chronicle
import TypeSchema.Proofs.Run.Classes
import TypeSchema.Proofs.Run.Cleanup
import TypeSchema.Proofs.Run.Deadlines
import TypeSchema.Proofs.Run.Handle
import TypeSchema.Proofs.Run.Races
import TypeSchema.Proofs.Run.Refusals
import TypeSchema.Proofs.Run.Schedule
import TypeSchema.Proofs.Run.Session
import TypeSchema.Proofs.Run.Starts
import TypeSchema.Proofs.Run.Step
import TypeSchema.Proofs.Schema.Acceptance
import TypeSchema.Proofs.Schema.Cache
import TypeSchema.Proofs.Schema.Compilation
import TypeSchema.Proofs.Schema.Contents
import TypeSchema.Proofs.Schema.Declared
import TypeSchema.Proofs.Schema.Defects
import TypeSchema.Proofs.Schema.Dialect
import TypeSchema.Proofs.Schema.Exactness
import TypeSchema.Proofs.Schema.Meaning
import TypeSchema.Proofs.Schema.Paths
import TypeSchema.Proofs.Schema.Trace
import TypeSchema.Proofs.Schema.Validity
import TypeSchema.Proofs.Schema.Violation
import TypeSchema.Proofs.Settings.Named
import TypeSchema.Proofs.Settings.Resolution
import TypeSchema.Proofs.Settings.Saved
import TypeSchema.Proofs.Source.Aliases
import TypeSchema.Proofs.Source.Automaton
import TypeSchema.Proofs.Source.Blocks
import TypeSchema.Proofs.Source.Extent
import TypeSchema.Proofs.Source.Identifiers
import TypeSchema.Proofs.Source.Increasing
import TypeSchema.Proofs.Source.Listing
import TypeSchema.Proofs.Source.Mask
import TypeSchema.Proofs.Source.Masking
import TypeSchema.Proofs.Source.Order
import TypeSchema.Proofs.Source.Recovery
import TypeSchema.Proofs.Source.RightSide
import TypeSchema.Proofs.Source.Search
import TypeSchema.Proofs.Source.Shown
import TypeSchema.Proofs.Source.Spans
import TypeSchema.Proofs.Source.Specifiers
import TypeSchema.Proofs.Source.Statements
import TypeSchema.Proofs.Source.Walk
import TypeSchema.Proofs.Text.Blank
import TypeSchema.Proofs.Text.Hexadecimal
import TypeSchema.Proofs.Text.Newline
import TypeSchema.Proofs.Text.Quoted
import TypeSchema.Proofs.Text.Split
import TypeSchema.Proofs.TypeExpr.Acceptance
import TypeSchema.Proofs.TypeExpr.AngleBrackets
import TypeSchema.Proofs.TypeExpr.Completeness
import TypeSchema.Proofs.TypeExpr.Completion
import TypeSchema.Proofs.TypeExpr.Earliest
import TypeSchema.Proofs.TypeExpr.Escapes
import TypeSchema.Proofs.TypeExpr.Grammar
import TypeSchema.Proofs.TypeExpr.Lexemes
import TypeSchema.Proofs.TypeExpr.Lexing
import TypeSchema.Proofs.TypeExpr.Meaning
import TypeSchema.Proofs.TypeExpr.Parameters
import TypeSchema.Proofs.TypeExpr.Places
import TypeSchema.Proofs.TypeExpr.Prefix
import TypeSchema.Proofs.TypeExpr.Quotes
import TypeSchema.Proofs.TypeExpr.Range
import TypeSchema.Proofs.TypeExpr.Shape
import TypeSchema.Proofs.TypeExpr.Soundness
import TypeSchema.Proofs.TypeExpr.Splitting
import TypeSchema.Proofs.TypeExpr.Steps
import TypeSchema.Proofs.TypeExpr.StringLiterals
import TypeSchema.Proofs.TypeNode.Positions
import TypeSchema.Proofs.TypeNode.Textual
import TypeSchema.Proofs.TypeNode.Values
import TypeSchema.Proofs.Yaml.Cursor
import TypeSchema.Proofs.Yaml.Documents
import TypeSchema.Proofs.Yaml.Escapes
import TypeSchema.Proofs.Yaml.Folding
import TypeSchema.Proofs.Yaml.Lines
import TypeSchema.Proofs.Yaml.Numerals
import TypeSchema.Proofs.Yaml.Plain
import TypeSchema.Proofs.Yaml.Printed
import TypeSchema.Proofs.Yaml.Quoted
import TypeSchema.Proofs.Yaml.Scalars
import TypeSchema.Registry
import TypeSchema.Run.Call
import TypeSchema.Run.Child
import TypeSchema.Run.Description
import TypeSchema.Run.Error
import TypeSchema.Run.Session
import TypeSchema.Run.Watch
import TypeSchema.Schema.Cache
import TypeSchema.Schema.Compile
import TypeSchema.Schema.Failure
import TypeSchema.Schema.Validate
import TypeSchema.Settings.Basic
import TypeSchema.Settings.Coercion
import TypeSchema.Settings.Document
import TypeSchema.Source.Declaration
import TypeSchema.Source.Mask
import TypeSchema.Source.Scan
import TypeSchema.Text.Base64
import TypeSchema.Text.Blank
import TypeSchema.Text.CharClass
import TypeSchema.Text.DecimalDigit
import TypeSchema.Text.Hexadecimal
import TypeSchema.Text.Lines
import TypeSchema.Text.Markup
import TypeSchema.Text.Newline
import TypeSchema.Text.Path
import TypeSchema.Text.Position
import TypeSchema.Text.Printable
import TypeSchema.Text.Quoted
import TypeSchema.Text.Split
import TypeSchema.Text.Utf8
import TypeSchema.Text.Word
import TypeSchema.TypeExpr.Alias
import TypeSchema.TypeExpr.Basic
import TypeSchema.TypeExpr.Error
import TypeSchema.TypeExpr.Literal
import TypeSchema.TypeExpr.Meaning
import TypeSchema.TypeExpr.Reading
import TypeSchema.TypeExpr.Token
import TypeSchema.TypeNode.Basic
import TypeSchema.Version.Basic
import TypeSchema.Yaml.Cursor
import TypeSchema.Yaml.Error
import TypeSchema.Yaml.Node
import TypeSchema.Yaml.Scalar
import TypeSchema.Yaml.Token
import TypeSchema.Yaml.Value
import TypeSchema.Yaml.Write
