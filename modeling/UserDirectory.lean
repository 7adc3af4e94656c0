import UserDirectory.Bus
import UserDirectory.Bus.Redis
import UserDirectory.Calendar
import UserDirectory.DomainError
import UserDirectory.Http.App
import UserDirectory.Http.Body
import UserDirectory.Http.MediaType
import UserDirectory.Http.Message
import UserDirectory.Http.Metrics
import UserDirectory.Http.OpenApi
import UserDirectory.Http.Route
import UserDirectory.Http.Target
import UserDirectory.Instant
import UserDirectory.Instant.Reader
import UserDirectory.Json.Binary64
import UserDirectory.Json.Fault
import UserDirectory.Json.Parser
import UserDirectory.Json.Record
import UserDirectory.Json.Scanner
import UserDirectory.Json.Skip
import UserDirectory.Json.Value
import UserDirectory.Keyed
import UserDirectory.Listing.Field
import UserDirectory.Listing.Query
import UserDirectory.Listing.Selection
import UserDirectory.Mailbox
import UserDirectory.Main
import UserDirectory.Number
import UserDirectory.Proofs.Calendar
import UserDirectory.Proofs.Calendar.Order
import UserDirectory.Proofs.Event
import UserDirectory.Proofs.Http.Bodies
import UserDirectory.Proofs.Http.Failure
import UserDirectory.Proofs.Http.Interpretation
import UserDirectory.Proofs.Http.Listing
import UserDirectory.Proofs.Http.Rendering
import UserDirectory.Proofs.Http.Secrecy
import UserDirectory.Proofs.Instant.Chronology
import UserDirectory.Proofs.Instant.Order
import UserDirectory.Proofs.Instant.Reading
import UserDirectory.Proofs.Instant.Truncation
import UserDirectory.Proofs.Instant.Words
import UserDirectory.Proofs.Json.Grammar
import UserDirectory.Proofs.Json.Record
import UserDirectory.Proofs.Json.RecordReading
import UserDirectory.Proofs.Json.Skipping
import UserDirectory.Proofs.Json.Strings
import UserDirectory.Proofs.Json.Text
import UserDirectory.Proofs.Keyed
import UserDirectory.Proofs.Listing.Form
import UserDirectory.Proofs.Listing.Parameters
import UserDirectory.Proofs.Listing.Query
import UserDirectory.Proofs.Mailbox.Grammar
import UserDirectory.Proofs.Mailbox.LineBreaks
import UserDirectory.Proofs.Mailbox.Parse
import UserDirectory.Proofs.Mailbox.Unambiguous
import UserDirectory.Proofs.Service.Chronology
import UserDirectory.Proofs.Service.Directory
import UserDirectory.Proofs.Service.Failure
import UserDirectory.Proofs.Service.Interleaving
import UserDirectory.Proofs.Service.Linearization
import UserDirectory.Proofs.Service.Masking
import UserDirectory.Proofs.Service.Outcomes
import UserDirectory.Proofs.Service.Plan
import UserDirectory.Proofs.Service.Policy
import UserDirectory.Proofs.Service.Replay
import UserDirectory.Proofs.Service.Times
import UserDirectory.Proofs.Steps
import UserDirectory.Proofs.Store.Filter
import UserDirectory.Proofs.Store.Listing
import UserDirectory.Proofs.Store.Update
import UserDirectory.Proofs.Text.Blank
import UserDirectory.Proofs.Text.Digit
import UserDirectory.Proofs.Text.Order
import UserDirectory.Proofs.Text.Utf8
import UserDirectory.Proofs.Url.Form
import UserDirectory.Proofs.User.Codec
import UserDirectory.Proofs.User.Details
import UserDirectory.Proofs.User.Document
import UserDirectory.Proofs.User.Invariant
import UserDirectory.Proofs.User.Order
import UserDirectory.Proofs.User.Text
import UserDirectory.Proofs.Uuid
import UserDirectory.Service
import UserDirectory.Settings
import UserDirectory.Settings.Given
import UserDirectory.Settings.Literal
import UserDirectory.Settings.Toml
import UserDirectory.Startup
import UserDirectory.Store
import UserDirectory.Store.Faults
import UserDirectory.Text.Printable
import UserDirectory.Text.Unicode
import UserDirectory.Text.Utf8
import UserDirectory.Url
import UserDirectory.Url.Form
import UserDirectory.Url.Host
import UserDirectory.User
import UserDirectory.User.Details
import UserDirectory.Uuid
