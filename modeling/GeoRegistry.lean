import GeoRegistry.Answer
import GeoRegistry.Audit
import GeoRegistry.Binary64
import GeoRegistry.Binary64.Shortest
import GeoRegistry.Caller
import GeoRegistry.Cell
import GeoRegistry.Cell.Quoted
import GeoRegistry.Clock
import GeoRegistry.Decimal
import GeoRegistry.Dialogue
import GeoRegistry.Digest.Argon2
import GeoRegistry.Digest.Blake2b
import GeoRegistry.Digest.Hmac
import GeoRegistry.Digest.Sha2
import GeoRegistry.Digest.Square
import GeoRegistry.Failure
import GeoRegistry.Filter
import GeoRegistry.Http.CrossOrigin
import GeoRegistry.Http.Document
import GeoRegistry.Http.PathBase
import GeoRegistry.Http.Request
import GeoRegistry.Http.Response
import GeoRegistry.Http.Route
import GeoRegistry.Instant
import GeoRegistry.Integral
import GeoRegistry.Json
import GeoRegistry.Json.Parser
import GeoRegistry.Json.Printer
import GeoRegistry.Log
import GeoRegistry.Log.Line
import GeoRegistry.Log.Template
import GeoRegistry.Login
import GeoRegistry.Main
import GeoRegistry.NameRule
import GeoRegistry.Password
import GeoRegistry.Password.Fault
import GeoRegistry.Password.Written
import GeoRegistry.Proofs.Dialogue
import GeoRegistry.Proofs.FailStop
import GeoRegistry.Proofs.Ownership
import GeoRegistry.Proofs.Sql.Logic
import GeoRegistry.Proofs.Sql.Queries
import GeoRegistry.Proofs.Sql.Rows
import GeoRegistry.Proofs.Sql.Selection
import GeoRegistry.Proofs.Store
import GeoRegistry.Proofs.Store.Definite
import GeoRegistry.Proofs.Store.Things
import GeoRegistry.Proofs.Store.Verb
import GeoRegistry.Proofs.Task
import GeoRegistry.Proofs.World
import GeoRegistry.Proofs.WriteGate
import GeoRegistry.Refusal
import GeoRegistry.Registry
import GeoRegistry.Registry.ThingTypes
import GeoRegistry.Registry.Things
import GeoRegistry.Service
import GeoRegistry.Service.Action
import GeoRegistry.Service.Connection
import GeoRegistry.Service.Endpoint
import GeoRegistry.Service.Lifespan
import GeoRegistry.Service.Serving
import GeoRegistry.Service.Setup
import GeoRegistry.Settings
import GeoRegistry.Sql
import GeoRegistry.Sql.Condition
import GeoRegistry.Sql.Descriptor
import GeoRegistry.Sql.Read
import GeoRegistry.Sql.Schema
import GeoRegistry.Sql.ThingTable
import GeoRegistry.Sql.ThingTypeTable
import GeoRegistry.Sql.Write
import GeoRegistry.Store.Channel
import GeoRegistry.Store.Collection
import GeoRegistry.Store.Command
import GeoRegistry.Store.Pool
import GeoRegistry.Store.Row
import GeoRegistry.Store.Statement
import GeoRegistry.Store.Writing
import GeoRegistry.Text.Ascii
import GeoRegistry.Text.Base64Url
import GeoRegistry.Text.Blank
import GeoRegistry.Text.Digit
import GeoRegistry.Text.Encoding
import GeoRegistry.Text.Hidden
import GeoRegistry.Text.IntegerLiteral
import GeoRegistry.Text.Percent
import GeoRegistry.Text.Quoted
import GeoRegistry.Text.Split
import GeoRegistry.Text.Surrogate
import GeoRegistry.Text.Utf8
import GeoRegistry.Text.WholeNumber
import GeoRegistry.Thing
import GeoRegistry.ThingType
import GeoRegistry.Timestamp
import GeoRegistry.Token
import GeoRegistry.Token.Algorithm
import GeoRegistry.Token.Claims
import GeoRegistry.Token.Key
import GeoRegistry.Token.KeyFault
import GeoRegistry.Token.Mark
import GeoRegistry.Token.Rejection
import GeoRegistry.Token.Signed
import GeoRegistry.Uuid
import GeoRegistry.Validation.Checked
import GeoRegistry.Validation.Issue
import GeoRegistry.Validation.Scalar
import GeoRegistry.Proofs.Sql.Numbering
import GeoRegistry.Proofs.Script
import GeoRegistry.Proofs.Text.Numeral
import GeoRegistry.Proofs.Text.Utf8
import GeoRegistry.Proofs.Json.Literal
import GeoRegistry.Proofs.Json.RoundTrip
import GeoRegistry.Proofs.Text.Base64Url
import GeoRegistry.Proofs.Token.Segments
import GeoRegistry.Proofs.Token.Authentic
import GeoRegistry.Proofs.Sql.Placeholders
import GeoRegistry.Proofs.Store.Placeholders
import GeoRegistry.Proofs.Validation.Agreement
import GeoRegistry.Proofs.Store.Phrasing
import GeoRegistry.Proofs.Store.Stamps
import GeoRegistry.Proofs.Http.Document
import GeoRegistry.Proofs.Service.Bodies
import GeoRegistry.Proofs.Service.Admission
import GeoRegistry.Proofs.Settings
import GeoRegistry.Proofs.Login
import GeoRegistry.Proofs.Service.Discretion
import GeoRegistry.Proofs.Token.Challenge
import GeoRegistry.Proofs.Json.Ascii
import GeoRegistry.Proofs.Service.Documents
import GeoRegistry.Proofs.Sql.Pages
import GeoRegistry.Proofs.Token.Lifetime
import GeoRegistry.Proofs.Store.Liveness
import GeoRegistry.Proofs.History
import GeoRegistry.Proofs.Forbidden
import GeoRegistry.Proofs.Receipt
import GeoRegistry.Proofs.Sql.Words
import GeoRegistry.Proofs.Sql.Sentence
import GeoRegistry.Proofs.Store.Columns
import GeoRegistry.Proofs.Moderation
import GeoRegistry.Proofs.Service.Filters
import GeoRegistry.Proofs.Json.Number
import GeoRegistry.Proofs.Json.Reading
import GeoRegistry.Proofs.Cell
import GeoRegistry.Proofs.Uuid
import GeoRegistry.Proofs.Timestamp
import GeoRegistry.Proofs.Validation.Settled
import GeoRegistry.Proofs.Requests
import GeoRegistry.Proofs.Log.Line
import GeoRegistry.Proofs.Log.Identity
import GeoRegistry.Proofs.Text.Blank
import GeoRegistry.Proofs.NameRule
import GeoRegistry.Proofs.Store.Pool
import GeoRegistry.Proofs.Service.Lifespan
import GeoRegistry.Proofs.Text.IntegerLiteral
import GeoRegistry.Proofs.Store.Status
import GeoRegistry.Proofs.Json.Joined
import GeoRegistry.Proofs.Sql.Assignments
import GeoRegistry.Proofs.Store.Sentences
