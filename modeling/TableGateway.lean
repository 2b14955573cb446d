import TableGateway.Access.Gate
import TableGateway.Access.Glob
import TableGateway.Access.Rule
import TableGateway.Action
import TableGateway.Calendar
import TableGateway.Calendar.Read
import TableGateway.Circumstances
import TableGateway.Database.Address
import TableGateway.Database.Answer
import TableGateway.Database.Catalog
import TableGateway.Database.Connection
import TableGateway.Database.Embedded.Lookup
import TableGateway.Database.Embedded.Operand
import TableGateway.Database.Embedded.Pattern
import TableGateway.Database.Embedded.Table
import TableGateway.Database.Embedded.Word
import TableGateway.Database.Engine
import TableGateway.Database.Inquiry
import TableGateway.Database.Locator
import TableGateway.Database.Report
import TableGateway.Database.Run
import TableGateway.Database.Schema
import TableGateway.Database.Statement
import TableGateway.Digest.Keyed
import TableGateway.Digest.Sha256
import TableGateway.Dispatch.Basic
import TableGateway.Dispatch.Draft
import TableGateway.Dispatch.Request
import TableGateway.Failure
import TableGateway.Http.Basic
import TableGateway.Http.Redirect
import TableGateway.Http.Route
import TableGateway.Json.Bytes
import TableGateway.Json.Read
import TableGateway.Json.Write
import TableGateway.Logging.Level
import TableGateway.Logging.Record
import TableGateway.Logging.Rolling
import TableGateway.Logging.Start
import TableGateway.Number.Compare
import TableGateway.Number.Decimal
import TableGateway.Number.Layout
import TableGateway.Number.Numeral
import TableGateway.Number.Read
import TableGateway.Number.Shortest
import TableGateway.Password
import TableGateway.Pattern.Basic
import TableGateway.Pattern.Read
import TableGateway.Pattern.Token
import TableGateway.Proofs.Action
import TableGateway.Proofs.Sql.Form
import TableGateway.Proofs.Sql.Lexeme
import TableGateway.Query.Basic
import TableGateway.Query.Clause
import TableGateway.Query.Identifier
import TableGateway.Query.Predicate
import TableGateway.Query.Token
import TableGateway.Service.Basic
import TableGateway.Service.Login
import TableGateway.Service.Serve
import TableGateway.Session
import TableGateway.Settings.Coercion
import TableGateway.Settings.Config
import TableGateway.Settings.Environment
import TableGateway.Settings.Reference
import TableGateway.Settings.VariableFile
import TableGateway.Text.Blank
import TableGateway.Text.DecimalDigit
import TableGateway.Text.Find
import TableGateway.Text.Hex
import TableGateway.Text.LowerCase
import TableGateway.Text.Percent
import TableGateway.Text.Printable
import TableGateway.Text.Quoted
import TableGateway.Text.Ranges
import TableGateway.Text.Utf8
import TableGateway.Text.WordChar
import TableGateway.Value.Basic
import TableGateway.Value.Display
import TableGateway.Proofs.Dispatch.Draft
import TableGateway.Proofs.Dispatch.Submission
import TableGateway.Proofs.Query.Reading
import TableGateway.Proofs.Sql.Spelling
import TableGateway.Proofs.Sql.Submitted
import TableGateway.Proofs.Credentials
import TableGateway.Proofs.Access.Gate
import TableGateway.Proofs.Dispatch.Scope
import TableGateway.Proofs.Number.Read
import TableGateway.Proofs.Dispatch.Contract
import TableGateway.Proofs.Number.Write
import TableGateway.Proofs.Sql.BoundName
import TableGateway.Proofs.Dispatch.Binding
import TableGateway.Proofs.Database.Staleness
import TableGateway.Proofs.Dispatch.Healing
import TableGateway.Proofs.Text.Percent
import TableGateway.Proofs.Query.Rendering
import TableGateway.Proofs.Query.Condition
import TableGateway.Proofs.Dispatch.Stages
import TableGateway.Proofs.Dispatch.PrimaryKey
import TableGateway.Proofs.Dispatch.Strictness
import TableGateway.Proofs.Agreement
import TableGateway.Proofs.Query.Resemblance
import TableGateway.Proofs.Dispatch.Resemblance
import TableGateway.Proofs.Dispatch.Lookup
import TableGateway.Proofs.Json.Write
import TableGateway.Proofs.Session
import TableGateway.Proofs.Service.Turn
import TableGateway.Proofs.Service.Login
import TableGateway.Proofs.Json.Read
import TableGateway.Proofs.Service.Credentials
import TableGateway.Proofs.Access.Glob
import TableGateway.Proofs.Access.Rule
import TableGateway.Proofs.Settings.Environment
import TableGateway.Proofs.Settings.Config
import TableGateway.Proofs.Access.Configuration
import TableGateway.Proofs.Service.Secrecy
import TableGateway.Proofs.Query.Grammar
import TableGateway.Proofs.Query.Contribution
import TableGateway.Proofs.Service.Target
import TableGateway.Proofs.Number.Shortest
import TableGateway.Proofs.Json.Text
import TableGateway.Proofs.Json.Number
import TableGateway.Proofs.Json.Nesting
import TableGateway.Proofs.Json.RoundTrip
import TableGateway.Proofs.Service.Rows
import TableGateway.Proofs.Text.Mark
import TableGateway.Proofs.Database.Report
import TableGateway.Proofs.Dispatch.Refusal
import TableGateway.Proofs.Database.Masking
import TableGateway.Proofs.Database.Address
import TableGateway.Proofs.Access.Method
import TableGateway.Proofs.Dispatch.PathId
import TableGateway.Proofs.Database.Parts
import TableGateway.Proofs.Number.Rounding
import TableGateway.Proofs.Settings.Lifetime
import TableGateway.Proofs.Logging.Rolling
import TableGateway.Proofs.Logging.Size
import TableGateway.Proofs.Number.Integer
import TableGateway.Proofs.Query.Count
