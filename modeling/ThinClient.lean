import ThinClient.Calendar
import ThinClient.Config
import ThinClient.Connection
import ThinClient.Pool.Worker
import ThinClient.Proofs.Calendar.Clocks
import ThinClient.Proofs.Calendar.DateTimes
import ThinClient.Proofs.Calendar.Dates
import ThinClient.Proofs.Calendar.Days
import ThinClient.Proofs.Calendar.Instants
import ThinClient.Proofs.Config.Address
import ThinClient.Proofs.Config.Environment
import ThinClient.Proofs.Connection.Attribution
import ThinClient.Proofs.Connection.Broken
import ThinClient.Proofs.Connection.Calls
import ThinClient.Proofs.Connection.Deferral
import ThinClient.Proofs.Connection.Opening
import ThinClient.Proofs.Connection.Outcome
import ThinClient.Proofs.Connection.Sending
import ThinClient.Proofs.Connection.Silence
import ThinClient.Proofs.Connection.Trips
import ThinClient.Proofs.LetterCase
import ThinClient.Proofs.Numerals
import ThinClient.Proofs.Pool.Accounting
import ThinClient.Proofs.Pool.Events
import ThinClient.Proofs.Pool.Order
import ThinClient.Proofs.Pool.Places
import ThinClient.Proofs.Pool.Polling
import ThinClient.Proofs.Pool.Refusals
import ThinClient.Proofs.Pool.Waiting
import ThinClient.Proofs.Query.Calls
import ThinClient.Proofs.Query.Columns
import ThinClient.Proofs.Query.Custody
import ThinClient.Proofs.Query.Failures
import ThinClient.Proofs.Query.FirstRow
import ThinClient.Proofs.Query.Laws
import ThinClient.Proofs.Query.Layout
import ThinClient.Proofs.Query.Lifetime
import ThinClient.Proofs.Query.Naming
import ThinClient.Proofs.Query.Paging
import ThinClient.Proofs.Query.Sessions
import ThinClient.Proofs.Query.Truncation
import ThinClient.Proofs.Query.Tuples
import ThinClient.Proofs.Query.Volume
import ThinClient.Proofs.Reading
import ThinClient.Proofs.Server.Answers
import ThinClient.Proofs.Server.Ledger
import ThinClient.Proofs.Server.Line
import ThinClient.Proofs.Splitting
import ThinClient.Proofs.Stream.Reception
import ThinClient.Proofs.Stream.Record
import ThinClient.Proofs.Utf8
import ThinClient.Proofs.Value.Damage
import ThinClient.Proofs.Value.Delimiting
import ThinClient.Proofs.Value.Expecting
import ThinClient.Proofs.Value.Nesting
import ThinClient.Proofs.Value.Records
import ThinClient.Proofs.Value.RoundTrip
import ThinClient.Proofs.Value.Shortage
import ThinClient.Proofs.Value.Spelling
import ThinClient.Proofs.Value.Survival
import ThinClient.Proofs.Width
import ThinClient.Query.Basic
import ThinClient.Rehearsal.PoolRun
import ThinClient.Rehearsal.Session
import ThinClient.Rehearsal.StreamRun
import ThinClient.Row
