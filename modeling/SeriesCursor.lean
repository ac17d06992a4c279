import SeriesCursor.Bitmap
import SeriesCursor.Bytes
import SeriesCursor.Calendar
import SeriesCursor.DataType
import SeriesCursor.Decimal.Binary
import SeriesCursor.Decimal.Layout
import SeriesCursor.Decimal.Shortest
import SeriesCursor.Error
import SeriesCursor.Frame
import SeriesCursor.Journal
import SeriesCursor.Json.Reader
import SeriesCursor.Json.Writer
import SeriesCursor.Level
import SeriesCursor.Page.Basic
import SeriesCursor.Page.Column
import SeriesCursor.Page.Reader
import SeriesCursor.Page.Writer
import SeriesCursor.Record
import SeriesCursor.ResultSet.Advance
import SeriesCursor.ResultSet.Basic
import SeriesCursor.ResultSet.Call
import SeriesCursor.ResultSet.Read
import SeriesCursor.Row.Basic
import SeriesCursor.Schema.Basic
import SeriesCursor.Schema.Resolve
import SeriesCursor.Schema.SlotIndex
import SeriesCursor.Server.Exchange
import SeriesCursor.Server.Status
import SeriesCursor.Server.Transport
import SeriesCursor.Settings.Basic
import SeriesCursor.Settings.Decode
import SeriesCursor.Settings.Document
import SeriesCursor.Settings.Moment
import SeriesCursor.Settings.Node
import SeriesCursor.Settings.Numeral
import SeriesCursor.Settings.Place
import SeriesCursor.Settings.Token
import SeriesCursor.Text.Blank
import SeriesCursor.Text.Hex
import SeriesCursor.Text.Quoted
import SeriesCursor.Text.Unprintable
import SeriesCursor.Value.Basic
import SeriesCursor.Value.Text
import SeriesCursor.Proofs.Column
import SeriesCursor.Proofs.Presence
import SeriesCursor.Proofs.ColumnRefinement
import SeriesCursor.Proofs.Coherence
import SeriesCursor.Proofs.Stopping
import SeriesCursor.Proofs.PageRoundTrip
import SeriesCursor.Proofs.Pagination
import SeriesCursor.Proofs.Searching
import SeriesCursor.Proofs.Requests
import SeriesCursor.Proofs.Reading
import SeriesCursor.Proofs.Provenance
import SeriesCursor.Proofs.PageReplacement
import SeriesCursor.Proofs.WholeCells
import SeriesCursor.Proofs.Checked
import SeriesCursor.Proofs.InBounds
import SeriesCursor.Proofs.Absorbing
import SeriesCursor.Proofs.NextRequest
import SeriesCursor.Proofs.WritingBack
import SeriesCursor.Proofs.SlotPermutation
import SeriesCursor.Proofs.PermutedRow
import SeriesCursor.Proofs.SlotChoice
import SeriesCursor.Proofs.FirstAppearance
import SeriesCursor.Proofs.GivenSlots
import SeriesCursor.Proofs.Lookup
import SeriesCursor.Proofs.Ordinals
import SeriesCursor.Proofs.Routes
import SeriesCursor.Proofs.Exchanges
import SeriesCursor.Proofs.FaithfulLog
import SeriesCursor.Proofs.DecidingReply
import SeriesCursor.Proofs.Precedence
import SeriesCursor.Proofs.FailedRow
import SeriesCursor.Proofs.FrameGrammar
import SeriesCursor.Proofs.ValueRoundTrip
import SeriesCursor.Proofs.OrdinalPosition
import SeriesCursor.Proofs.JsonNumber
import SeriesCursor.Proofs.JsonRoundTrip
import SeriesCursor.Proofs.RecordJson
import SeriesCursor.Proofs.PresenceWalk
import SeriesCursor.Proofs.TypeNames
import SeriesCursor.Proofs.DayCount
import SeriesCursor.Proofs.Instants
