import Tributary.Client.Connection
import Tributary.Client.Session
import Tributary.Cursor.Basic
import Tributary.Cursor.Cells
import Tributary.Cursor.HandOff
import Tributary.Cursor.Opening
import Tributary.Cursor.Paged
import Tributary.Cursor.Signal
import Tributary.Cursor.Socket
import Tributary.Cursor.Streamed
import Tributary.Error
import Tributary.Json.Basic
import Tributary.Json.Printer
import Tributary.Json.Reader
import Tributary.Json.Record
import Tributary.Number.Binary64
import Tributary.Number.Decimal
import Tributary.Number.Integer
import Tributary.Number.Shortest
import Tributary.Params.Basic
import Tributary.Params.ConnectionString
import Tributary.Params.Duration
import Tributary.Params.Server
import Tributary.Params.Token
import Tributary.Proofs.Client.Cancelled
import Tributary.Proofs.Client.Closing
import Tributary.Proofs.Client.Files
import Tributary.Proofs.Client.Runs
import Tributary.Proofs.Client.Tokens
import Tributary.Proofs.Conversation.Cancellation
import Tributary.Proofs.Conversation.Contexts
import Tributary.Proofs.Conversation.Exchanges
import Tributary.Proofs.Conversation.Ledgers
import Tributary.Proofs.Conversation.Moves
import Tributary.Proofs.Conversation.Sendings
import Tributary.Proofs.Conversation.Sparing
import Tributary.Proofs.Conversation.Turns
import Tributary.Proofs.Cursor.Delivery
import Tributary.Proofs.Cursor.Endpoints
import Tributary.Proofs.Cursor.Enrichment
import Tributary.Proofs.Cursor.Forward
import Tributary.Proofs.Cursor.Frames
import Tributary.Proofs.Cursor.Modes
import Tributary.Proofs.Cursor.Paging
import Tributary.Proofs.Cursor.Partitions
import Tributary.Proofs.Cursor.Redirects
import Tributary.Proofs.Cursor.Requests
import Tributary.Proofs.Cursor.Rows
import Tributary.Proofs.Cursor.Schedules
import Tributary.Proofs.Json.Integers
import Tributary.Proofs.Json.Reading
import Tributary.Proofs.Json.Records
import Tributary.Proofs.Json.Strings
import Tributary.Proofs.Number.Binary64
import Tributary.Proofs.Number.Decimal
import Tributary.Proofs.Number.Numeral
import Tributary.Proofs.Number.Truncation
import Tributary.Proofs.Params.Bounds
import Tributary.Proofs.Params.Credentials
import Tributary.Proofs.Params.LastValues
import Tributary.Proofs.Params.Normalization
import Tributary.Proofs.Params.Pairs
import Tributary.Proofs.Params.Secrets
import Tributary.Proofs.Params.Server
import Tributary.Proofs.Service.Downloads
import Tributary.Proofs.Service.Requests
import Tributary.Proofs.Statement.Asking
import Tributary.Proofs.Statement.Completion
import Tributary.Proofs.Statement.Counterparts
import Tributary.Proofs.Text.CodeTable
import Tributary.Proofs.Text.Composition
import Tributary.Proofs.Text.Form
import Tributary.Proofs.Text.Percent
import Tributary.Proofs.Text.Splitting
import Tributary.Proofs.Text.Utf8
import Tributary.Proofs.Time.Calendar
import Tributary.Proofs.Time.Fields
import Tributary.Proofs.Time.Timestamp
import Tributary.Proofs.Time.Zone
import Tributary.Proofs.Url.Addresses
import Tributary.Proofs.Url.Credentials
import Tributary.Proofs.Url.Domain
import Tributary.Proofs.Url.Host
import Tributary.Proofs.Url.Mapping
import Tributary.Proofs.Url.Path
import Tributary.Proofs.Url.Punycode
import Tributary.Proofs.Url.Reader
import Tributary.Proofs.Url.Secrets
import Tributary.Proofs.Url.Tables
import Tributary.Proofs.Url.Tails
import Tributary.Proofs.Value.Decoding
import Tributary.Proofs.Value.Families
import Tributary.Proofs.Value.Hints
import Tributary.Proofs.Value.Shown
import Tributary.Proofs.Value.Times
import Tributary.Proofs.Wire.Codes
import Tributary.Proofs.Wire.Messages
import Tributary.Proofs.Wire.RoundTrip
import Tributary.Proofs.Wire.States
import Tributary.Proofs.Wire.Stream
import Tributary.Service.Answers
import Tributary.Service.Attachment
import Tributary.Service.Basic
import Tributary.Service.Conversation
import Tributary.Service.Http
import Tributary.Service.Progress
import Tributary.Service.Question
import Tributary.SqlState
import Tributary.Statement.Runner
import Tributary.Status
import Tributary.Text.Ascii
import Tributary.Text.Base64
import Tributary.Text.Blank
import Tributary.Text.CodeTable
import Tributary.Text.Composition
import Tributary.Text.Form
import Tributary.Text.Percent
import Tributary.Text.Printable
import Tributary.Text.Quoted
import Tributary.Text.Utf8
import Tributary.Time.Clock
import Tributary.Time.Date
import Tributary.Time.Scan
import Tributary.Time.Timestamp
import Tributary.Time.Zone
import Tributary.Url.Basic
import Tributary.Url.Domain.Basic
import Tributary.Url.Domain.Direction
import Tributary.Url.Domain.Joining
import Tributary.Url.Domain.Mapping
import Tributary.Url.Host
import Tributary.Url.Ipv4
import Tributary.Url.Ipv6
import Tributary.Url.Path
import Tributary.Url.Punycode
import Tributary.Url.Reader
import Tributary.Uuid
import Tributary.Value.Basic
import Tributary.Value.Column
import Tributary.Value.Decode
import Tributary.Value.Family
import Tributary.Wire.Context
import Tributary.Wire.ResultSet
import Tributary.Wire.Service
import Tributary.Wire.Statement
import Tributary.Wire.Stream
