import CatalogRules.Character.Age
import CatalogRules.Character.Case
import CatalogRules.Character.Category
import CatalogRules.Character.Division
import CatalogRules.Character.Property
import CatalogRules.Character.PropertyTable
import CatalogRules.Character.Runs
import CatalogRules.Character.Script
import CatalogRules.Character.ScriptTable
import CatalogRules.Cli.Arguments
import CatalogRules.Cli.Run
import CatalogRules.Config.Basic
import CatalogRules.Config.Document
import CatalogRules.Evaluation.Evaluate
import CatalogRules.Evaluation.Limits
import CatalogRules.Evaluation.Outage
import CatalogRules.Evaluation.Program
import CatalogRules.Evaluation.RequestId
import CatalogRules.Evaluation.Residual
import CatalogRules.Filter.Basic
import CatalogRules.Filter.Codec
import CatalogRules.Filter.Compile
import CatalogRules.Ingest.Ingest
import CatalogRules.Ingest.Mapping
import CatalogRules.Ingest.Product
import CatalogRules.Json.Decode
import CatalogRules.Json.Draft
import CatalogRules.Json.Printer
import CatalogRules.Json.Value
import CatalogRules.Log.Code
import CatalogRules.Log.Event
import CatalogRules.Log.Facade
import CatalogRules.Log.Journal
import CatalogRules.Main
import CatalogRules.Number.Binary64
import CatalogRules.Number.Decimal
import CatalogRules.Number.Layout
import CatalogRules.Number.Power
import CatalogRules.Number.Shortest
import CatalogRules.Number.Stepwise
import CatalogRules.Pattern.Basic
import CatalogRules.Pattern.Brackets
import CatalogRules.Pattern.CharSet
import CatalogRules.Pattern.Escape
import CatalogRules.Pattern.Fault
import CatalogRules.Pattern.Form
import CatalogRules.Pattern.Group
import CatalogRules.Pattern.Meaning
import CatalogRules.Pattern.NamedSet
import CatalogRules.Pattern.Reader
import CatalogRules.Pattern.Reading
import CatalogRules.Pattern.Room
import CatalogRules.Pattern.Sequence
import CatalogRules.Pattern.Stretches
import CatalogRules.Proofs.Cli.Course
import CatalogRules.Proofs.Evaluation.Conjunction
import CatalogRules.Proofs.Evaluation.Evaluate
import CatalogRules.Proofs.Evaluation.Integers
import CatalogRules.Proofs.Evaluation.Program
import CatalogRules.Proofs.Evaluation.Residual
import CatalogRules.Proofs.Evaluation.Threads
import CatalogRules.Proofs.Filter.Compilation
import CatalogRules.Proofs.Filter.Meaning
import CatalogRules.Proofs.Filter.Selection
import CatalogRules.Proofs.Ingest.Run
import CatalogRules.Proofs.Json.Decoding
import CatalogRules.Proofs.Json.Reading
import CatalogRules.Proofs.Number.Decimal
import CatalogRules.Proofs.Number.Nearest
import CatalogRules.Proofs.Number.PlainText
import CatalogRules.Proofs.Number.Value
import CatalogRules.Proofs.Record.RoundTrip
import CatalogRules.Proofs.Rule.Grammar
import CatalogRules.Proofs.Rule.Line
import CatalogRules.Proofs.Rule.Literal
import CatalogRules.Proofs.Rule.Reading
import CatalogRules.Proofs.Rule.Token
import CatalogRules.Proofs.Store.Contents
import CatalogRules.Proofs.Store.Document
import CatalogRules.Proofs.Store.Files
import CatalogRules.Proofs.Store.History
import CatalogRules.Proofs.Text.ByteOrder
import CatalogRules.Proofs.Text.Digits
import CatalogRules.Proofs.Text.Lines
import CatalogRules.Record.Basic
import CatalogRules.Record.Codec
import CatalogRules.Rule.Codec
import CatalogRules.Rule.Condition
import CatalogRules.Rule.Field
import CatalogRules.Rule.Operator
import CatalogRules.Rule.RuleSet
import CatalogRules.Rule.Value
import CatalogRules.Service.Envelope
import CatalogRules.Service.Service
import CatalogRules.Store.Basic
import CatalogRules.Store.Document
import CatalogRules.Store.Error
import CatalogRules.Store.Files
import CatalogRules.Store.Matching
import CatalogRules.Text.Blank
import CatalogRules.Text.Clip
import CatalogRules.Text.Digits
import CatalogRules.Text.Line
import CatalogRules.Text.Order
import CatalogRules.Text.Printable
import CatalogRules.Text.Reader
import CatalogRules.Text.Split
import CatalogRules.Time.Calendar
import CatalogRules.Time.Instant
import CatalogRules.Time.Timestamp
import CatalogRules.Toml.Basic
import CatalogRules.Toml.Reader
import CatalogRules.Toml.Scalar
import CatalogRules.Toml.Text
import CatalogRules.Proofs.Rule.Display
import CatalogRules.Proofs.Ingest.Outcome
import CatalogRules.Proofs.Text.FixedWidth
import CatalogRules.Proofs.Time.Calendar
import CatalogRules.Proofs.Time.Order
import CatalogRules.Proofs.Time.Reading
import CatalogRules.Proofs.Filter.Dates
import CatalogRules.Proofs.Number.Whole
import CatalogRules.Proofs.Rule.Comparison
import CatalogRules.Proofs.Store.Integers
import CatalogRules.Proofs.Filter.Typing
import CatalogRules.Proofs.Evaluation.Trace
import CatalogRules.Proofs.Evaluation.Interleaving
import CatalogRules.Proofs.Ingest.Interleaving
import CatalogRules.Proofs.Filter.Rejection
import CatalogRules.Proofs.Rule.Precedence
import CatalogRules.Proofs.Json.Prefix
import CatalogRules.Proofs.Time.Canonical
import CatalogRules.Proofs.Json.Arrays
import CatalogRules.Proofs.Ingest.Listing
import CatalogRules.Proofs.Store.Loading
import CatalogRules.Proofs.Store.Clauses
import CatalogRules.Proofs.Pattern.Occurrence
import CatalogRules.Proofs.Number.Rounding
import CatalogRules.Proofs.Number.Numeral
import CatalogRules.Proofs.Rule.LiteralPattern
import CatalogRules.Proofs.Rule.Coercion
import CatalogRules.Proofs.Number.DataText
import CatalogRules.Proofs.Number.Stepwise
import CatalogRules.Proofs.Json.Numbers
import CatalogRules.Proofs.Rule.RoundTrip
import CatalogRules.Proofs.Evaluation.Prices
import CatalogRules.Proofs.Ingest.Prices
import CatalogRules.Proofs.Json.Objects
import CatalogRules.Proofs.Record.Spelling
import CatalogRules.Proofs.Service.Envelope
import CatalogRules.Proofs.Text.Layout
import CatalogRules.Proofs.Config.Setting
import CatalogRules.Proofs.Config.Layers
