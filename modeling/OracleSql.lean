import OracleSql.Change.Delete
import OracleSql.Change.Insert
import OracleSql.Change.Merge
import OracleSql.Change.Returning
import OracleSql.Change.Rows
import OracleSql.Change.Update
import OracleSql.Chunks
import OracleSql.ColumnType
import OracleSql.Condition
import OracleSql.Connect.Host
import OracleSql.Connect.KeyValue
import OracleSql.Connect.Target
import OracleSql.Connect.Url
import OracleSql.Decode
import OracleSql.Dialect
import OracleSql.Digest.Sha256
import OracleSql.Encode
import OracleSql.Error.Basic
import OracleSql.Error.Classify
import OracleSql.Error.Fault
import OracleSql.Identifier
import OracleSql.Json.Basic
import OracleSql.Json.Reader
import OracleSql.Marker
import OracleSql.Members
import OracleSql.Migration.Definition
import OracleSql.Migration.Dictionary
import OracleSql.Migration.Difference
import OracleSql.Migration.Migrator
import OracleSql.Moment
import OracleSql.Number.Binary
import OracleSql.Number.Decimal
import OracleSql.Number.Shortest
import OracleSql.Piece
import OracleSql.Pool.Basic
import OracleSql.Pool.Settings
import OracleSql.Proofs.Batch.Carried
import OracleSql.Proofs.Batch.Limit
import OracleSql.Proofs.Batch.Selected
import OracleSql.Proofs.Change.Forms
import OracleSql.Proofs.Change.Guard
import OracleSql.Proofs.Change.Parts
import OracleSql.Proofs.Change.Refusal
import OracleSql.Proofs.Column.Canonical
import OracleSql.Proofs.Column.Comparing
import OracleSql.Proofs.Column.Encoding
import OracleSql.Proofs.Column.LookUp
import OracleSql.Proofs.Column.RoundTrip
import OracleSql.Proofs.Column.Rounding
import OracleSql.Proofs.Column.Stored
import OracleSql.Proofs.Column.Widening
import OracleSql.Proofs.Condition.Membership
import OracleSql.Proofs.Condition.Predicate
import OracleSql.Proofs.Condition.Rendering
import OracleSql.Proofs.Condition.Tree
import OracleSql.Proofs.Condition.Truth
import OracleSql.Proofs.Condition.Within
import OracleSql.Proofs.Connect.Credentials
import OracleSql.Proofs.Connect.Entries
import OracleSql.Proofs.Connect.Location
import OracleSql.Proofs.Connect.Quoting
import OracleSql.Proofs.Connect.Recognized
import OracleSql.Proofs.Containment.Changes
import OracleSql.Proofs.Containment.Clauses
import OracleSql.Proofs.Containment.Names
import OracleSql.Proofs.Containment.Parallel
import OracleSql.Proofs.Containment.Queries
import OracleSql.Proofs.Containment.Renaming
import OracleSql.Proofs.Containment.Requests
import OracleSql.Proofs.Containment.Splitting
import OracleSql.Proofs.Identifier.Grammar
import OracleSql.Proofs.Identifier.Quoting
import OracleSql.Proofs.Identifier.Readable
import OracleSql.Proofs.Identifier.Segments
import OracleSql.Proofs.Listing.Repeats
import OracleSql.Proofs.Listing.Spelling
import OracleSql.Proofs.Listing.Statements
import OracleSql.Proofs.Markers.Accepted
import OracleSql.Proofs.Markers.Agreement
import OracleSql.Proofs.Markers.Assembled
import OracleSql.Proofs.Markers.Builders
import OracleSql.Proofs.Markers.Clauses
import OracleSql.Proofs.Markers.Place
import OracleSql.Proofs.Markers.Reading
import OracleSql.Proofs.Migration.Accepted
import OracleSql.Proofs.Migration.Answering
import OracleSql.Proofs.Migration.Applying
import OracleSql.Proofs.Migration.Catalog
import OracleSql.Proofs.Migration.Convergence
import OracleSql.Proofs.Migration.Defining
import OracleSql.Proofs.Migration.Dictionary
import OracleSql.Proofs.Migration.Effect
import OracleSql.Proofs.Migration.Inquiry
import OracleSql.Proofs.Migration.Judged
import OracleSql.Proofs.Migration.Literals
import OracleSql.Proofs.Migration.Naming
import OracleSql.Proofs.Migration.Numbering
import OracleSql.Proofs.Migration.Order
import OracleSql.Proofs.Migration.Parts
import OracleSql.Proofs.Migration.Progress
import OracleSql.Proofs.Migration.Recovery
import OracleSql.Proofs.Migration.Renamed
import OracleSql.Proofs.Migration.Replanning
import OracleSql.Proofs.Migration.Reported
import OracleSql.Proofs.Migration.Safety
import OracleSql.Proofs.Migration.Survey
import OracleSql.Proofs.Migration.Unchanged
import OracleSql.Proofs.Migration.Views
import OracleSql.Proofs.Migration.Written
import OracleSql.Proofs.Number.Binary
import OracleSql.Proofs.Number.Decimal
import OracleSql.Proofs.Number.Rounding
import OracleSql.Proofs.Outcome
import OracleSql.Proofs.Pieces
import OracleSql.Proofs.Pool.HandOut
import OracleSql.Proofs.Pool.Life
import OracleSql.Proofs.Pool.Rehearsed
import OracleSql.Proofs.Pool.Size
import OracleSql.Proofs.Pool.Taking
import OracleSql.Proofs.Query.Body
import OracleSql.Proofs.Query.Clauses
import OracleSql.Proofs.Query.Counting
import OracleSql.Proofs.Query.Paging
import OracleSql.Proofs.Query.Parts
import OracleSql.Proofs.Query.Reference
import OracleSql.Proofs.Query.Rows
import OracleSql.Proofs.Query.Window
import OracleSql.Proofs.Reading.Clauses
import OracleSql.Proofs.Reading.Joined
import OracleSql.Proofs.Reading.Precedence
import OracleSql.Proofs.Reading.Token
import OracleSql.Proofs.Returning.Accounting
import OracleSql.Proofs.Returning.ByRow
import OracleSql.Proofs.Returning.Correlation
import OracleSql.Proofs.Returning.Form
import OracleSql.Proofs.Returning.Tiling
import OracleSql.Proofs.Runs
import OracleSql.Proofs.Session.Abandonment
import OracleSql.Proofs.Session.Answered
import OracleSql.Proofs.Session.Carried
import OracleSql.Proofs.Session.Classified
import OracleSql.Proofs.Session.Cleanup
import OracleSql.Proofs.Session.Native
import OracleSql.Proofs.Session.Perform
import OracleSql.Proofs.Session.Protocol
import OracleSql.Proofs.Session.Recorded
import OracleSql.Proofs.Session.Transcript
import OracleSql.Proofs.Session.Unusable
import OracleSql.Proofs.Styles.Alike
import OracleSql.Proofs.Styles.Assembled
import OracleSql.Proofs.Styles.Meaning
import OracleSql.Proofs.Styles.Names
import OracleSql.Proofs.Styles.Pieces
import OracleSql.Proofs.Styles.Requests
import OracleSql.Proofs.Styles.Templates
import OracleSql.Proofs.Template.Filling
import OracleSql.Proofs.Template.Grammar
import OracleSql.Proofs.Template.Native
import OracleSql.Proofs.Template.Outline
import OracleSql.Proofs.Template.ReadBack
import OracleSql.Proofs.Template.Scanning
import OracleSql.Proofs.Template.Substitution
import OracleSql.Proofs.Uuid
import OracleSql.Proofs.Values.Changes
import OracleSql.Proofs.Values.Erased
import OracleSql.Proofs.Values.Requests
import OracleSql.Query.HandWritten
import OracleSql.Query.Select
import OracleSql.Request
import OracleSql.Row
import OracleSql.Schema
import OracleSql.Session.Connection
import OracleSql.Session.Executor
import OracleSql.Session.Guard
import OracleSql.Session.Requests
import OracleSql.Session.Script
import OracleSql.Settings.Adapter
import OracleSql.Settings.Dialect
import OracleSql.Settings.Field
import OracleSql.Statement
import OracleSql.TableReference
import OracleSql.Template
import OracleSql.Text.Blank
import OracleSql.Text.Fold
import OracleSql.Text.Layout
import OracleSql.Text.Percent
import OracleSql.Text.Quoted
import OracleSql.Text.Upper
import OracleSql.Text.Visibility
import OracleSql.Toml.Basic
import OracleSql.Toml.Reader
import OracleSql.Toml.Text
import OracleSql.Toml.Word
import OracleSql.Uuid
import OracleSql.Value
