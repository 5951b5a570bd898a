import SourceMacros.Command
import SourceMacros.Config
import SourceMacros.Context
import SourceMacros.Declaration
import SourceMacros.Declaration.Json
import SourceMacros.Declaration.Printer
import SourceMacros.Diagnostic
import SourceMacros.Event
import SourceMacros.Expander.DoubleValue
import SourceMacros.Expander.GenerateStruct
import SourceMacros.Expander.Singleton
import SourceMacros.Expansion
import SourceMacros.ExpansionError
import SourceMacros.Expectation
import SourceMacros.Expression
import SourceMacros.Expression.Json
import SourceMacros.Expression.Literal
import SourceMacros.Expression.Printer
import SourceMacros.Grammar.Attribute
import SourceMacros.Grammar.Basic
import SourceMacros.Grammar.Bound
import SourceMacros.Grammar.Error
import SourceMacros.Grammar.Expression
import SourceMacros.Grammar.Fields
import SourceMacros.Grammar.Item
import SourceMacros.Grammar.Member
import SourceMacros.Grammar.Operation
import SourceMacros.Grammar.Operator
import SourceMacros.Grammar.Parts
import SourceMacros.Grammar.Path
import SourceMacros.Grammar.Pattern
import SourceMacros.Grammar.Signature
import SourceMacros.Grammar.Statement
import SourceMacros.Grammar.Types
import SourceMacros.Grammar.Use
import SourceMacros.Grammar.Whole
import SourceMacros.Invocation
import SourceMacros.Json.Basic
import SourceMacros.Json.Decode
import SourceMacros.Json.Draft
import SourceMacros.Json.Numeral
import SourceMacros.Json.Printer
import SourceMacros.Json.Scan
import SourceMacros.Main
import SourceMacros.Marker.Arguments
import SourceMacros.Marker.Error
import SourceMacros.Marker.Expansion
import SourceMacros.Proofs.Command.Modes
import SourceMacros.Proofs.Config.Identifiers
import SourceMacros.Proofs.Declaration.Aligned
import SourceMacros.Proofs.Declaration.Codec
import SourceMacros.Proofs.Declaration.Content
import SourceMacros.Proofs.Declaration.Depth
import SourceMacros.Proofs.Declaration.Members
import SourceMacros.Proofs.Declaration.Parted
import SourceMacros.Proofs.Declaration.Reading
import SourceMacros.Proofs.Declaration.Rendered
import SourceMacros.Proofs.Declaration.RoundTrip
import SourceMacros.Proofs.Declaration.Spelled
import SourceMacros.Proofs.Declaration.Taking
import SourceMacros.Proofs.Declaration.Verbatim
import SourceMacros.Proofs.DoubleValue.Source
import SourceMacros.Proofs.Expression.Aligned
import SourceMacros.Proofs.Expression.Balanced
import SourceMacros.Proofs.Expression.Bracketed
import SourceMacros.Proofs.Expression.Codec
import SourceMacros.Proofs.Expression.Content
import SourceMacros.Proofs.Expression.Depth
import SourceMacros.Proofs.Expression.Layout
import SourceMacros.Proofs.Expression.Parted
import SourceMacros.Proofs.Expression.Reading
import SourceMacros.Proofs.Expression.Rendered
import SourceMacros.Proofs.Expression.RoundTrip
import SourceMacros.Proofs.Expression.Sealed
import SourceMacros.Proofs.Expression.Shapes
import SourceMacros.Proofs.Expression.Spelled
import SourceMacros.Proofs.Expression.Stepwise
import SourceMacros.Proofs.Expression.Taking
import SourceMacros.Proofs.Expression.Verbatim
import SourceMacros.Proofs.GenerateStruct.Fields
import SourceMacros.Proofs.GenerateStruct.Policies
import SourceMacros.Proofs.GenerateStruct.Readable
import SourceMacros.Proofs.GenerateStruct.Run
import SourceMacros.Proofs.Grammar.Paths
import SourceMacros.Proofs.Grammar.Rewrites
import SourceMacros.Proofs.Json.Drafts
import SourceMacros.Proofs.Json.Pretty
import SourceMacros.Proofs.Json.RoundTrip
import SourceMacros.Proofs.Json.Spelled
import SourceMacros.Proofs.Json.Tokens
import SourceMacros.Proofs.Literal.Integer
import SourceMacros.Proofs.Marker.Arguments
import SourceMacros.Proofs.Marker.Clauses
import SourceMacros.Proofs.Marker.Expansion
import SourceMacros.Proofs.Marker.Items
import SourceMacros.Proofs.Marker.Names
import SourceMacros.Proofs.Nesting.Alike
import SourceMacros.Proofs.Nesting.Bound
import SourceMacros.Proofs.Nesting.Place
import SourceMacros.Proofs.Nesting.Scan
import SourceMacros.Proofs.Reader.Content
import SourceMacros.Proofs.Reader.Keeps
import SourceMacros.Proofs.Reader.Laws
import SourceMacros.Proofs.Reader.Levels
import SourceMacros.Proofs.Reader.Places
import SourceMacros.Proofs.Reader.Progress
import SourceMacros.Proofs.Reader.Regular
import SourceMacros.Proofs.Reader.Related
import SourceMacros.Proofs.Reader.Reparse
import SourceMacros.Proofs.Reader.Rounds
import SourceMacros.Proofs.Reader.Trimmed
import SourceMacros.Proofs.Reader.Whole
import SourceMacros.Proofs.Registry.Offsets
import SourceMacros.Proofs.Registry.Source
import SourceMacros.Proofs.Registry.Table
import SourceMacros.Proofs.Results
import SourceMacros.Proofs.Singleton.Run
import SourceMacros.Proofs.Singleton.Source
import SourceMacros.Proofs.Text.Layout
import SourceMacros.Proofs.Text.Trim
import SourceMacros.Proofs.TypeDescriptor.Closed
import SourceMacros.Proofs.TypeDescriptor.Codec
import SourceMacros.Proofs.TypeDescriptor.Exact
import SourceMacros.Proofs.TypeDescriptor.Grammar
import SourceMacros.Proofs.TypeDescriptor.Reading
import SourceMacros.Reader.Basic
import SourceMacros.Reader.Declaration
import SourceMacros.Reader.Expression
import SourceMacros.Reader.Nesting
import SourceMacros.Reader.Source
import SourceMacros.Registry
import SourceMacros.Report
import SourceMacros.Role
import SourceMacros.SyntaxError
import SourceMacros.Text.Blank
import SourceMacros.Text.ByteOrder
import SourceMacros.Text.Identifier
import SourceMacros.Text.Lines
import SourceMacros.Text.Printable
import SourceMacros.Text.Quoted
import SourceMacros.Text.Span
import SourceMacros.Text.Uppercase
import SourceMacros.Text.Word
import SourceMacros.Token.Basic
import SourceMacros.Token.Kind
import SourceMacros.Token.Lexer
import SourceMacros.Token.Number
import SourceMacros.Token.Spelled
import SourceMacros.TypeDescriptor
import SourceMacros.TypeDescriptor.Json
