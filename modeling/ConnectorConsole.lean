import ConnectorConsole.Catalog
import ConnectorConsole.CommandLine.Failure
import ConnectorConsole.CommandLine.Grammar
import ConnectorConsole.CommandLine.Invocation
import ConnectorConsole.CommandLine.Run
import ConnectorConsole.CommandLine.Settings
import ConnectorConsole.CommandLine.Studio
import ConnectorConsole.CommandLine.Usage
import ConnectorConsole.Connector.Decoding
import ConnectorConsole.Connector.Draft
import ConnectorConsole.Connector.Encoding
import ConnectorConsole.Connector.Names
import ConnectorConsole.Editor.Build
import ConnectorConsole.Editor.Fields
import ConnectorConsole.Editor.Form
import ConnectorConsole.Editor.Layout
import ConnectorConsole.Editor.Submission
import ConnectorConsole.Fault
import ConnectorConsole.Json.Cursor
import ConnectorConsole.Json.Decoder
import ConnectorConsole.Json.Numerals
import ConnectorConsole.Json.Printer
import ConnectorConsole.Json.Problem
import ConnectorConsole.Json.Reader
import ConnectorConsole.Json.Strings
import ConnectorConsole.Json.Value
import ConnectorConsole.Main
import ConnectorConsole.Number.Binary64
import ConnectorConsole.Number.Layout
import ConnectorConsole.Number.Reading
import ConnectorConsole.Number.Shortest
import ConnectorConsole.Ops.Command
import ConnectorConsole.Ops.Controller
import ConnectorConsole.Ops.Display
import ConnectorConsole.Ops.Once
import ConnectorConsole.Ops.Payload
import ConnectorConsole.Ops.Query
import ConnectorConsole.Ops.Screen
import ConnectorConsole.Ops.ScreenEncoding
import ConnectorConsole.Ops.Target
import ConnectorConsole.Ops.Ticker
import ConnectorConsole.Ops.Watch
import ConnectorConsole.Proofs.CommandLine.FormCommands
import ConnectorConsole.Proofs.CommandLine.SilentFailures
import ConnectorConsole.Proofs.CommandLine.ValidationStatus
import ConnectorConsole.Proofs.CommandLine.Wizards
import ConnectorConsole.Proofs.CommandLine.Words
import ConnectorConsole.Proofs.Connector.SourceShape
import ConnectorConsole.Proofs.Connector.WrittenForm
import ConnectorConsole.Proofs.Connector.WrittenNumbers
import ConnectorConsole.Proofs.Editor.Assignments
import ConnectorConsole.Proofs.Editor.CanonicalDrafts
import ConnectorConsole.Proofs.Editor.Defaults
import ConnectorConsole.Proofs.Editor.Edits
import ConnectorConsole.Proofs.Editor.FaultTexts
import ConnectorConsole.Proofs.Editor.HiddenFields
import ConnectorConsole.Proofs.Editor.LocalFaults
import ConnectorConsole.Proofs.Editor.Proposals
import ConnectorConsole.Proofs.Editor.Rebuilding
import ConnectorConsole.Proofs.Json.Containers
import ConnectorConsole.Proofs.Json.Openings
import ConnectorConsole.Proofs.Json.Ordering
import ConnectorConsole.Proofs.Json.PositionalRecords
import ConnectorConsole.Proofs.Json.ReadBack
import ConnectorConsole.Proofs.Json.ReadValues
import ConnectorConsole.Proofs.Json.Records
import ConnectorConsole.Proofs.Json.Scalars
import ConnectorConsole.Proofs.Json.Scanning
import ConnectorConsole.Proofs.Json.SparseRecords
import ConnectorConsole.Proofs.Json.Values
import ConnectorConsole.Proofs.Number.Significands
import ConnectorConsole.Proofs.Number.Digits
import ConnectorConsole.Proofs.Number.WholeNumbers
import ConnectorConsole.Proofs.Ops.AnswerOrder
import ConnectorConsole.Proofs.Ops.DisplayMirror
import ConnectorConsole.Proofs.Ops.Fencing
import ConnectorConsole.Proofs.Ops.Freshness
import ConnectorConsole.Proofs.Ops.History
import ConnectorConsole.Proofs.Ops.LastAnswer
import ConnectorConsole.Proofs.Ops.PageWalk
import ConnectorConsole.Proofs.Ops.PageTurns
import ConnectorConsole.Proofs.Ops.Pages
import ConnectorConsole.Proofs.Ops.PagesInRange
import ConnectorConsole.Proofs.Ops.PayloadSchemas
import ConnectorConsole.Proofs.Ops.PollingLoop
import ConnectorConsole.Proofs.Ops.QueryTransitions
import ConnectorConsole.Proofs.Ops.SharedQueries
import ConnectorConsole.Proofs.Ops.SparsePayloads
import ConnectorConsole.Proofs.Ops.WrongShapes
import ConnectorConsole.Proofs.Service.Deliveries
import ConnectorConsole.Proofs.Service.Endpoints
import ConnectorConsole.Proofs.Service.Exchanges
import ConnectorConsole.Proofs.Service.Verdicts
import ConnectorConsole.Proofs.Text.CapitalLetters
import ConnectorConsole.Proofs.Text.Splitting
import ConnectorConsole.Proofs.Text.Trimming
import ConnectorConsole.Proofs.Text.Utf8ReadBack
import ConnectorConsole.Proofs.Web.FormReadBack
import ConnectorConsole.Proofs.Web.PathSegments
import ConnectorConsole.Proposal
import ConnectorConsole.Service.Calls
import ConnectorConsole.Service.Exchange
import ConnectorConsole.Service.Reply
import ConnectorConsole.Service.Validation
import ConnectorConsole.Service.Wire
import ConnectorConsole.Terminal.Render
import ConnectorConsole.Terminal.Table
import ConnectorConsole.Terminal.Watch
import ConnectorConsole.Text.Blank
import ConnectorConsole.Text.Charset
import ConnectorConsole.Text.Lowercase
import ConnectorConsole.Text.Quoted
import ConnectorConsole.Text.Uppercase
import ConnectorConsole.Text.Utf8
import ConnectorConsole.Time.Calendar
import ConnectorConsole.Time.Timestamp
import ConnectorConsole.Web.FormEncoding
import ConnectorConsole.Web.Host
import ConnectorConsole.Web.Percent
import ConnectorConsole.Web.Punycode
import ConnectorConsole.Web.Url
import ConnectorConsole.Proofs.Editor.ModeSwitching
import ConnectorConsole.Proofs.Ops.Locations
import ConnectorConsole.Proofs.Json.ForeignEntries
import ConnectorConsole.Proofs.Editor.SourceTypes
import ConnectorConsole.Proofs.Editor.InPlace
import ConnectorConsole.Proofs.Editor.LastValues
import ConnectorConsole.Proofs.Editor.Filling
import ConnectorConsole.Proofs.Editor.Acceptance
import ConnectorConsole.Proofs.Service.ContentTypes
import ConnectorConsole.Proofs.Ops.Looks
import ConnectorConsole.Proofs.Text.Utf8Validity
import ConnectorConsole.Proofs.Ops.OperatorInput
import ConnectorConsole.Proofs.Ops.FilterLines
import ConnectorConsole.Proofs.Time.DayNumbers
import ConnectorConsole.Proofs.Time.Readings
import ConnectorConsole.Proofs.Time.WrittenInstants
import ConnectorConsole.Proofs.Ops.DateTexts
import ConnectorConsole.Proofs.Text.Spaces
import ConnectorConsole.Proofs.Terminal.Columns
