import SchemaSeed.Assoc
import SchemaSeed.Command.Arguments
import SchemaSeed.Command.Program
import SchemaSeed.Command.Run
import SchemaSeed.Command.Serve
import SchemaSeed.Command.World
import SchemaSeed.Content
import SchemaSeed.Database.Address
import SchemaSeed.Database.Connect
import SchemaSeed.Database.Ephemeral
import SchemaSeed.Database.Failure
import SchemaSeed.Database.Playbook
import SchemaSeed.Database.Pool
import SchemaSeed.Database.Redact
import SchemaSeed.Database.Retry
import SchemaSeed.Database.Scripted
import SchemaSeed.Database.Seeding
import SchemaSeed.Database.Server
import SchemaSeed.Database.Url
import SchemaSeed.Decimal.Binary64
import SchemaSeed.Decimal.Places
import SchemaSeed.Decimal.Shortest
import SchemaSeed.Dependency.Basic
import SchemaSeed.Dependency.Decode
import SchemaSeed.Dependency.Graph
import SchemaSeed.Dependency.Order
import SchemaSeed.Duration
import SchemaSeed.Event
import SchemaSeed.Files.Tree
import SchemaSeed.Json.Decode
import SchemaSeed.Json.Fault
import SchemaSeed.Json.Mismatch
import SchemaSeed.Json.Number
import SchemaSeed.Json.Numeral
import SchemaSeed.Json.Raw
import SchemaSeed.Json.Reader
import SchemaSeed.Json.Record
import SchemaSeed.Json.Scan
import SchemaSeed.Json.Skim
import SchemaSeed.Json.Value
import SchemaSeed.Json.Writer
import SchemaSeed.Logging.Decode
import SchemaSeed.Logging.Filter
import SchemaSeed.Logging.Pattern
import SchemaSeed.Logging.Setup
import SchemaSeed.Main
import SchemaSeed.Metrics
import SchemaSeed.MockData
import SchemaSeed.Proofs.Agreement
import SchemaSeed.Proofs.Assoc
import SchemaSeed.Proofs.Attempts
import SchemaSeed.Proofs.Command.Password
import SchemaSeed.Proofs.Command.Run
import SchemaSeed.Proofs.Database.Alike
import SchemaSeed.Proofs.Database.Journal
import SchemaSeed.Proofs.Database.Masking
import SchemaSeed.Proofs.Database.Password
import SchemaSeed.Proofs.Database.Pool
import SchemaSeed.Proofs.Database.Redact
import SchemaSeed.Proofs.Database.Retry
import SchemaSeed.Proofs.Database.Seeding
import SchemaSeed.Proofs.Database.Url
import SchemaSeed.Proofs.Database.Visit
import SchemaSeed.Proofs.Dependency.Arrival
import SchemaSeed.Proofs.Dependency.Cycle
import SchemaSeed.Proofs.Dependency.Depth
import SchemaSeed.Proofs.Dependency.Facts
import SchemaSeed.Proofs.Dependency.Graph
import SchemaSeed.Proofs.Dependency.Order
import SchemaSeed.Proofs.Dependency.Progress
import SchemaSeed.Proofs.Dependency.TieBreak
import SchemaSeed.Proofs.Files.Room
import SchemaSeed.Proofs.Files.Tree
import SchemaSeed.Proofs.Json.Accepted
import SchemaSeed.Proofs.Json.Containers
import SchemaSeed.Proofs.Json.Grammar
import SchemaSeed.Proofs.Json.Integer
import SchemaSeed.Proofs.Json.Layout
import SchemaSeed.Proofs.Json.Literal
import SchemaSeed.Proofs.Json.Member
import SchemaSeed.Proofs.Json.Number
import SchemaSeed.Proofs.Json.Record
import SchemaSeed.Proofs.Json.Skim
import SchemaSeed.Proofs.Json.Token
import SchemaSeed.Proofs.Json.ValueText
import SchemaSeed.Proofs.Json.Writer
import SchemaSeed.Proofs.Lifecycle
import SchemaSeed.Proofs.MockData
import SchemaSeed.Proofs.MockData.Reading
import SchemaSeed.Proofs.Overflow
import SchemaSeed.Proofs.Publication
import SchemaSeed.Proofs.Report
import SchemaSeed.Proofs.Report.Reading
import SchemaSeed.Proofs.Run.Account
import SchemaSeed.Proofs.Run.Answers
import SchemaSeed.Proofs.Run.Documents
import SchemaSeed.Proofs.Run.Fates
import SchemaSeed.Proofs.Run.ForeignKeys
import SchemaSeed.Proofs.Run.Ledger
import SchemaSeed.Proofs.Run.Likeness
import SchemaSeed.Proofs.Run.Outcome
import SchemaSeed.Proofs.Run.Perform
import SchemaSeed.Proofs.Run.Plan
import SchemaSeed.Proofs.Run.Spelling
import SchemaSeed.Proofs.Script.Composition
import SchemaSeed.Proofs.Script.Extraction
import SchemaSeed.Proofs.Script.Formatting
import SchemaSeed.Proofs.Script.Likeness
import SchemaSeed.Proofs.Script.Literal
import SchemaSeed.Proofs.Script.Naming
import SchemaSeed.Proofs.Script.Pattern
import SchemaSeed.Proofs.Script.Quoted
import SchemaSeed.Proofs.Script.Recognition
import SchemaSeed.Proofs.Script.Reference
import SchemaSeed.Proofs.Script.Rendering
import SchemaSeed.Proofs.Script.Scan
import SchemaSeed.Proofs.Script.Statement
import SchemaSeed.Proofs.Script.Stripped
import SchemaSeed.Proofs.Script.Written
import SchemaSeed.Proofs.Secrecy
import SchemaSeed.Proofs.Service.Handler
import SchemaSeed.Proofs.Service.TestRequest
import SchemaSeed.Proofs.Sql.ReadBack
import SchemaSeed.Proofs.Text.Lowercase
import SchemaSeed.Proofs.Text.PrefixCode
import SchemaSeed.Proofs.Text.Split
import SchemaSeed.Proofs.Text.Stops
import SchemaSeed.Proofs.Text.Utf8
import SchemaSeed.Report
import SchemaSeed.Run.Dialogue
import SchemaSeed.Run.Executor
import SchemaSeed.Run.Ledger
import SchemaSeed.Run.Seeding
import SchemaSeed.Script.Comment
import SchemaSeed.Script.Declaration
import SchemaSeed.Script.Statement
import SchemaSeed.SeedError
import SchemaSeed.Service.Handler
import SchemaSeed.Service.MediaType
import SchemaSeed.Service.Message
import SchemaSeed.Service.TestRequest
import SchemaSeed.Settings
import SchemaSeed.Sql.Insert
import SchemaSeed.Sql.Literal
import SchemaSeed.Text.Blank
import SchemaSeed.Text.Hex
import SchemaSeed.Text.Lowercase
import SchemaSeed.Text.Quoted
import SchemaSeed.Text.Ranges
import SchemaSeed.Text.Search
import SchemaSeed.Text.Split
import SchemaSeed.Text.Table.Alphabetic
import SchemaSeed.Text.Table.Case
import SchemaSeed.Text.Table.Hidden
import SchemaSeed.Text.Table.Lowercase
import SchemaSeed.Text.Utf8
import SchemaSeed.Text.Word
import SchemaSeed.Toml.Decode
import SchemaSeed.Toml.Document
import SchemaSeed.Toml.Item
import SchemaSeed.Toml.Scalar
import SchemaSeed.Toml.Scan
import SchemaSeed.Proofs.Dependency.Representation
import SchemaSeed.Proofs.Dependency.Rounds
