import RecordStore.Proofs.Catalogue.Basic
import RecordStore.Proofs.Catalogue.Depicts
import RecordStore.Proofs.Catalogue.Listing
import RecordStore.Proofs.Catalogue.Operations
import RecordStore.Proofs.Catalogue.Refinement
import RecordStore.Proofs.Catalogue.Resolved
import RecordStore.Proofs.Catalogue.Step
import RecordStore.Proofs.Catalogue.Transactions
import RecordStore.Proofs.Database.Numbers
import RecordStore.Proofs.Database.Registries
import RecordStore.Proofs.Database.Selection
import RecordStore.Proofs.Database.Statements
import RecordStore.Proofs.Database.Table
import RecordStore.Proofs.Database.TypeRegistry
import RecordStore.Proofs.Index.Agreement
import RecordStore.Proofs.Index.Columns
import RecordStore.Proofs.Index.Conflict
import RecordStore.Proofs.Index.Entry
import RecordStore.Proofs.Index.Failures
import RecordStore.Proofs.Index.Integers
import RecordStore.Proofs.Index.Naming
import RecordStore.Proofs.Index.Objects
import RecordStore.Proofs.Index.Printed
import RecordStore.Proofs.Index.Ready
import RecordStore.Proofs.Index.Rejection
import RecordStore.Proofs.Index.Rows
import RecordStore.Proofs.Index.Unambiguous
import RecordStore.Proofs.Index.Widths
import RecordStore.Proofs.Json.Integral
import RecordStore.Proofs.Json.Levels
import RecordStore.Proofs.Json.Literal
import RecordStore.Proofs.Json.Range
import RecordStore.Proofs.Json.Reading
import RecordStore.Proofs.Json.Real
import RecordStore.Proofs.Json.RoundTrip
import RecordStore.Proofs.Key.Cache
import RecordStore.Proofs.Key.PlainText
import RecordStore.Proofs.Key.RoundTrip
import RecordStore.Proofs.Key.SharedCache
import RecordStore.Proofs.Number.Radix
import RecordStore.Proofs.Number.Rounding
import RecordStore.Proofs.Outcome
import RecordStore.Proofs.Query.Ambiguity
import RecordStore.Proofs.Query.Answer
import RecordStore.Proofs.Query.Arrangement
import RecordStore.Proofs.Query.Continuation
import RecordStore.Proofs.Query.Correct
import RecordStore.Proofs.Query.Counts
import RecordStore.Proofs.Query.Datum
import RecordStore.Proofs.Query.Lookup
import RecordStore.Proofs.Query.Matching
import RecordStore.Proofs.Query.Order
import RecordStore.Proofs.Query.Pages
import RecordStore.Proofs.Query.Paging
import RecordStore.Proofs.Query.Paths
import RecordStore.Proofs.Query.Present
import RecordStore.Proofs.Query.Rebinding
import RecordStore.Proofs.Query.Reversal
import RecordStore.Proofs.Query.Scan
import RecordStore.Proofs.Query.Spellings
import RecordStore.Proofs.Query.Terms
import RecordStore.Proofs.Query.Token
import RecordStore.Proofs.Schema.RoundTrip
import RecordStore.Proofs.Schema.Sound
import RecordStore.Proofs.Schema.WellFormed
import RecordStore.Proofs.Sql.Identifiers
import RecordStore.Proofs.Sql.Reader
import RecordStore.Proofs.Sql.Reading
import RecordStore.Proofs.Sql.Requests
import RecordStore.Proofs.Sql.Statements
import RecordStore.Proofs.Store.Action
import RecordStore.Proofs.Store.Alone
import RecordStore.Proofs.Store.Atomicity
import RecordStore.Proofs.Store.Backfill
import RecordStore.Proofs.Store.BulkRead
import RecordStore.Proofs.Store.Clearing
import RecordStore.Proofs.Store.Coherent
import RecordStore.Proofs.Store.Counted
import RecordStore.Proofs.Store.Entering
import RecordStore.Proofs.Store.Failure
import RecordStore.Proofs.Store.Faithful
import RecordStore.Proofs.Store.Fetching
import RecordStore.Proofs.Store.FixedTables
import RecordStore.Proofs.Store.Framed
import RecordStore.Proofs.Store.Gone
import RecordStore.Proofs.Store.IndexConsistency
import RecordStore.Proofs.Store.IndexesHold
import RecordStore.Proofs.Store.Isolation
import RecordStore.Proofs.Store.Lasting
import RecordStore.Proofs.Store.Layout
import RecordStore.Proofs.Store.OneType
import RecordStore.Proofs.Store.Permanence
import RecordStore.Proofs.Store.Progress
import RecordStore.Proofs.Store.Provisioned
import RecordStore.Proofs.Store.Publication
import RecordStore.Proofs.Store.Reached
import RecordStore.Proofs.Store.ReadBack
import RecordStore.Proofs.Store.Readings
import RecordStore.Proofs.Store.RecordSteps
import RecordStore.Proofs.Store.Refill
import RecordStore.Proofs.Store.Reopening
import RecordStore.Proofs.Store.Republish
import RecordStore.Proofs.Store.RowLoop
import RecordStore.Proofs.Store.SchemaSteps
import RecordStore.Proofs.Store.SchemaText
import RecordStore.Proofs.Store.SessionKeys
import RecordStore.Proofs.Store.Sharing
import RecordStore.Proofs.Store.Steps
import RecordStore.Proofs.Store.Transaction
import RecordStore.Proofs.Store.Uniqueness
import RecordStore.Proofs.Text.Base64
import RecordStore.Proofs.Text.Case
import RecordStore.Proofs.Text.Decimal
import RecordStore.Proofs.Text.Hex
import RecordStore.Proofs.Text.PlaceValue
import RecordStore.Proofs.Text.Utf8Order
import RecordStore.Settings.Reader
import RecordStore.Store.Deployment
