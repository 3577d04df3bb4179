import Outreach.Aggregation
import Outreach.Aggregation.Outcome
import Outreach.Aggregation.Reading
import Outreach.Calendar.Day
import Outreach.Calendar.Instant
import Outreach.Calendar.Timestamp
import Outreach.Contact
import Outreach.Decimal.Layout
import Outreach.Decimal.Reader
import Outreach.Decimal.Shortest
import Outreach.Engine.Body
import Outreach.Engine.Exchange
import Outreach.Engine.Reply
import Outreach.Fault
import Outreach.Field
import Outreach.Filter.AgeBand
import Outreach.Filter.Form
import Outreach.Filter.TextScope
import Outreach.Filter.Tokens
import Outreach.Json
import Outreach.Json.Printer
import Outreach.Json.Reader
import Outreach.Json.Shape
import Outreach.Lookup
import Outreach.Named
import Outreach.Operations
import Outreach.Pivot.Level
import Outreach.Pivot.Rows
import Outreach.Pivot.Span
import Outreach.Place
import Outreach.Proofs.Age.Tiling
import Outreach.Proofs.Aggregation.Evaluation
import Outreach.Proofs.Aggregation.Malformed
import Outreach.Proofs.Aggregation.ReadBack
import Outreach.Proofs.Aggregation.Rewording
import Outreach.Proofs.Aggregation.Shape
import Outreach.Proofs.Calendar.DayText
import Outreach.Proofs.Calendar.InstantText
import Outreach.Proofs.Calendar.Numbering
import Outreach.Proofs.Calendar.TimestampText
import Outreach.Proofs.Contact.Identifiers
import Outreach.Proofs.Contact.RoundTrip
import Outreach.Proofs.Contact.StoredChange
import Outreach.Proofs.Engine.Answers
import Outreach.Proofs.Engine.Calls
import Outreach.Proofs.Engine.Corpus
import Outreach.Proofs.Engine.Injectivity
import Outreach.Proofs.Fault.Steps
import Outreach.Proofs.Form.Acceptance
import Outreach.Proofs.Form.Answers
import Outreach.Proofs.Form.Reading
import Outreach.Proofs.Form.Writing
import Outreach.Proofs.Json.Members
import Outreach.Proofs.Json.Reading
import Outreach.Proofs.Operations.Area
import Outreach.Proofs.Operations.CallSequence
import Outreach.Proofs.Operations.Confinement
import Outreach.Proofs.Operations.Operation
import Outreach.Proofs.Operations.Results
import Outreach.Proofs.Operations.Stages
import Outreach.Proofs.Pivot.CrossTable
import Outreach.Proofs.Pivot.Entries
import Outreach.Proofs.Pivot.Exact
import Outreach.Proofs.Pivot.Refolding
import Outreach.Proofs.Pivot.RoundTrip
import Outreach.Proofs.Pivot.Shape
import Outreach.Proofs.Pivot.Table
import Outreach.Proofs.Pivot.Totals
import Outreach.Proofs.Pivot.Unavailable
import Outreach.Proofs.Query.Injectivity
import Outreach.Proofs.Query.Matching
import Outreach.Proofs.Query.Occurrences
import Outreach.Proofs.Report.Ages
import Outreach.Proofs.Report.Facets
import Outreach.Proofs.Report.SharedAges
import Outreach.Proofs.SearchRequest.Forms
import Outreach.Proofs.Selection.Acceptance
import Outreach.Proofs.Selection.LastChange
import Outreach.Proofs.Selection.Meaning
import Outreach.Proofs.Selection.Positions
import Outreach.Proofs.Selection.Reading
import Outreach.Proofs.Selection.WellFormed
import Outreach.Proofs.Text.Digits
import Outreach.Proofs.Text.Numerals
import Outreach.Proofs.Text.Pieces
import Outreach.Proofs.Text.Words
import Outreach.Query
import Outreach.Query.Bound
import Outreach.Query.Rendering
import Outreach.Report.Indicators
import Outreach.Report.Places
import Outreach.SearchRequest
import Outreach.Selection
import Outreach.Selection.Compilation
import Outreach.Settings
import Outreach.Text.Blank
import Outreach.Text.Casing
import Outreach.Text.Casing.Table
import Outreach.Text.Numeral
import Outreach.Text.Pieces
import Outreach.Text.Quoted
import Outreach.Text.Quoted.Table
