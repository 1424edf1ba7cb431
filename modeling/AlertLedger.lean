import AlertLedger.Alert.Basic
import AlertLedger.Alert.Evidence
import AlertLedger.Alert.Form
import AlertLedger.Alert.Sentence
import AlertLedger.Ascending
import AlertLedger.Call.Basic
import AlertLedger.Call.Bounds
import AlertLedger.Call.Course
import AlertLedger.Call.Prompt
import AlertLedger.Call.Timed
import AlertLedger.Command.Arguments
import AlertLedger.Command.Display
import AlertLedger.Command.Help
import AlertLedger.Command.Paint
import AlertLedger.Command.Session
import AlertLedger.Debounce
import AlertLedger.Failure
import AlertLedger.Http.Answer
import AlertLedger.Http.Body
import AlertLedger.Http.Header
import AlertLedger.Json.Basic
import AlertLedger.Json.Fields
import AlertLedger.Json.Magnitude
import AlertLedger.Json.Printer
import AlertLedger.Json.Reader
import AlertLedger.Main
import AlertLedger.Notice.Channel
import AlertLedger.Notice.Event
import AlertLedger.Notice.Form
import AlertLedger.Notice.Webhook
import AlertLedger.Pass.Basic
import AlertLedger.Pass.Rehearsal
import AlertLedger.Pass.Report
import AlertLedger.Plan
import AlertLedger.Query.Basic
import AlertLedger.Query.Form
import AlertLedger.Settings
import AlertLedger.Store
import AlertLedger.Text.Blank
import AlertLedger.Text.Decimal
import AlertLedger.Text.Graphic
import AlertLedger.Text.Hexadecimal
import AlertLedger.Text.Quoted
import AlertLedger.Text.Uuid
import AlertLedger.Time.Date
import AlertLedger.Time.Instant
import AlertLedger.Time.Phrase
import AlertLedger.Time.Span
import AlertLedger.Time.Timestamp
import AlertLedger.Proofs.Store.Contents
import AlertLedger.Proofs.Store.Listing
import AlertLedger.Proofs.Alert.Succession
import AlertLedger.Proofs.Alert.Carried
import AlertLedger.Proofs.Alert.Sameness
import AlertLedger.Proofs.Alert.WellFormed
import AlertLedger.Proofs.Plan.Members
import AlertLedger.Proofs.Query.Scope
import AlertLedger.Proofs.Call.Keeping
import AlertLedger.Proofs.Call.Trace
import AlertLedger.Proofs.Call.Interruption
import AlertLedger.Proofs.Call.Fate
import AlertLedger.Proofs.Pass.Calls
import AlertLedger.Proofs.Pass.Created
import AlertLedger.Proofs.Pass.Outcome
import AlertLedger.Proofs.Pass.Prompt
import AlertLedger.Proofs.Pass.PostState
import AlertLedger.Proofs.Pass.Rehearsal
import AlertLedger.Proofs.Pass.Retry
import AlertLedger.Proofs.Pass.CallOrder
import AlertLedger.Proofs.Pass.OneActive
import AlertLedger.Proofs.Debounce
import AlertLedger.Proofs.Pass.RateLimit
import AlertLedger.Proofs.Pass.Underway
import AlertLedger.Proofs.Pass.Series
import AlertLedger.Proofs.Pass.Lifecycle
import AlertLedger.Proofs.Pass.WellFormed
import AlertLedger.Proofs.Pass.AnnouncedOnce
import AlertLedger.Proofs.Pass.Faults
import AlertLedger.Proofs.Pass.NewRecords
import AlertLedger.Proofs.Pass.Locality
import AlertLedger.Proofs.Pass.Commuting
import AlertLedger.Proofs.Plan.Rewrites
import AlertLedger.Proofs.Plan.Evidence
import AlertLedger.Proofs.Pass.QuietWindow
import AlertLedger.Proofs.Call.Unseen
import AlertLedger.Proofs.Pass.Attempted
import AlertLedger.Proofs.Json.Tokens
import AlertLedger.Proofs.Json.Values
import AlertLedger.Proofs.Json.Members
import AlertLedger.Proofs.Time.Timestamp
import AlertLedger.Proofs.Alert.Form
import AlertLedger.Proofs.Command.StateFile
import AlertLedger.Proofs.Plan.Accounting
import AlertLedger.Proofs.Plan.Shuffled
import AlertLedger.Proofs.Alert.Join
import AlertLedger.Proofs.Pass.Reported
import AlertLedger.Proofs.Pass.Success
import AlertLedger.Proofs.Call.Races
import AlertLedger.Proofs.Store.Requests
import AlertLedger.Proofs.Store.Table
import AlertLedger.Proofs.Query.Filters
import AlertLedger.Proofs.Alert.Sentence
import AlertLedger.Proofs.Notice.Event
import AlertLedger.Proofs.Notice.FanOut
