import SqlDialects.Calendar.Date
import SqlDialects.Calendar.DateTime
import SqlDialects.Calendar.Iso8601
import SqlDialects.Converter
import SqlDialects.Ddl.Column
import SqlDialects.Ddl.Context
import SqlDialects.Ddl.Table
import SqlDialects.Dialect
import SqlDialects.Dialect.Vendors
import SqlDialects.Field
import SqlDialects.Field.Validation
import SqlDialects.Json.Encoding
import SqlDialects.Json.Reader
import SqlDialects.Json.Writer
import SqlDialects.LogRecord
import SqlDialects.Main
import SqlDialects.Number.Decimal
import SqlDialects.Number.Integer
import SqlDialects.Number.Real
import SqlDialects.Number.Shortest
import SqlDialects.Proofs.Converter.Literals
import SqlDialects.Proofs.Converter.RoundTrip
import SqlDialects.Proofs.Ddl.Clauses
import SqlDialects.Proofs.Ddl.Companions
import SqlDialects.Proofs.Ddl.Contributions
import SqlDialects.Proofs.Ddl.Defaults
import SqlDialects.Proofs.Ddl.Execution
import SqlDialects.Proofs.Ddl.Failures
import SqlDialects.Proofs.Ddl.Keys
import SqlDialects.Proofs.Ddl.Removal
import SqlDialects.Proofs.Ddl.Rendering
import SqlDialects.Proofs.Ddl.Structure
import SqlDialects.Proofs.Json.Values
import SqlDialects.Proofs.Number.Digits
import SqlDialects.Proofs.Registry.History
import SqlDialects.Proofs.Schema.Anchors
import SqlDialects.Proofs.Schema.Faults
import SqlDialects.Proofs.Schema.Histories
import SqlDialects.Proofs.Schema.Paths
import SqlDialects.Proofs.Schema.Places
import SqlDialects.Proofs.Schema.Spans
import SqlDialects.Proofs.Select.Pagination
import SqlDialects.Proofs.Service.BodyLimit
import SqlDialects.Proofs.Service.Defaults
import SqlDialects.Proofs.Sql.Fragment
import SqlDialects.Proofs.Sql.Lexeme
import SqlDialects.Proofs.Sql.Nesting
import SqlDialects.Proofs.Sql.Numeral
import SqlDialects.Proofs.Sql.Separation
import SqlDialects.Proofs.Table.Widths
import SqlDialects.Proofs.Yaml.Aliases
import SqlDialects.Proofs.Yaml.Expansion
import SqlDialects.Proofs.Yaml.LeftState
import SqlDialects.Proofs.Yaml.Reach
import SqlDialects.Proofs.Yaml.TokenPlaces
import SqlDialects.Proofs.Yaml.TreeFaults
import SqlDialects.Proofs.Yaml.ValueFaults
import SqlDialects.Registry
import SqlDialects.RenderError
import SqlDialects.Row
import SqlDialects.Schema.File
import SqlDialects.Schema.Loader
import SqlDialects.Schema.Safety
import SqlDialects.Schema.SourceMap
import SqlDialects.Select
import SqlDialects.Service.Answer
import SqlDialects.Service.BodyLimit
import SqlDialects.Service.Endpoint
import SqlDialects.Service.Form
import SqlDialects.Service.Message
import SqlDialects.Service.Route
import SqlDialects.Settings
import SqlDialects.Settings.Dotenv
import SqlDialects.Settings.Sources
import SqlDialects.SqlType
import SqlDialects.Startup
import SqlDialects.Table
import SqlDialects.Table.Validation
import SqlDialects.Text.Base64
import SqlDialects.Text.CaseTable
import SqlDialects.Text.Character
import SqlDialects.Text.CodePoint
import SqlDialects.Text.LineEnd
import SqlDialects.Text.PrintableTable
import SqlDialects.Text.Quoted
import SqlDialects.Text.Utf8
import SqlDialects.Text.WordTable
import SqlDialects.Uuid
import SqlDialects.Validation.Checked
import SqlDialects.Validation.Scalar
import SqlDialects.Validation.Violation
import SqlDialects.Value
import SqlDialects.Value.Archive
import SqlDialects.Value.Conversion
import SqlDialects.Value.Shown
import SqlDialects.Yaml.Comment
import SqlDialects.Yaml.Cursor
import SqlDialects.Yaml.Document
import SqlDialects.Yaml.Node
import SqlDialects.Yaml.Scalar
import SqlDialects.Yaml.Token
import SqlDialects.Yaml.Token.Name
import SqlDialects.Yaml.Token.Scalar
import SqlDialects.Yaml.Token.Stream
import SqlDialects.Proofs.Number.Numerals
import SqlDialects.Proofs.Calendar.Iso8601
import SqlDialects.Proofs.Converter.Canonical
import SqlDialects.Proofs.Ddl.Canonical
import SqlDialects.Proofs.Ddl.NativeDefaults
import SqlDialects.Proofs.Ddl.Repetition
import SqlDialects.Proofs.Ddl.Sequences
import SqlDialects.Proofs.Ddl.Constraints
import SqlDialects.Proofs.Schema.Entries
import SqlDialects.Proofs.Table.Acceptance
import SqlDialects.Proofs.Service.Agreement
import SqlDialects.Proofs.Converter.Identifiers
import SqlDialects.Proofs.Schema.NodeCount
import SqlDialects.Proofs.Sql.Escapes
import SqlDialects.Proofs.Yaml.Lexemes
import SqlDialects.Proofs.Schema.Ampersands
import SqlDialects.Proofs.Text.Spellings
