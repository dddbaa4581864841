import PacedPurge.Bucket.Arrivals
import PacedPurge.Bucket.Assembly
import PacedPurge.Bucket.Row
import PacedPurge.Bucket.Source
import PacedPurge.Chance
import PacedPurge.Clock
import PacedPurge.CommandLine.Arguments
import PacedPurge.CommandLine.ErrorText
import PacedPurge.CommandLine.Invocation
import PacedPurge.CommandLine.Perform
import PacedPurge.Document.Collation
import PacedPurge.Document.Order
import PacedPurge.Document.Path
import PacedPurge.Duration
import PacedPurge.Filter.Basic
import PacedPurge.Filter.Matching
import PacedPurge.Journal
import PacedPurge.Json.Literal
import PacedPurge.Json.Parser
import PacedPurge.Json.Printer
import PacedPurge.Json.Value
import PacedPurge.Line
import PacedPurge.Load.Admission
import PacedPurge.Load.Counters
import PacedPurge.Load.Snapshot
import PacedPurge.Load.Thresholds
import PacedPurge.Main
import PacedPurge.Namespace
import PacedPurge.Number.Binary64
import PacedPurge.Number.Decimal
import PacedPurge.Number.Unsigned
import PacedPurge.Plan.Basic
import PacedPurge.Plan.Variables
import PacedPurge.Proofs.Store.Effects
import PacedPurge.Proofs.Store.Holdings
import PacedPurge.Proofs.Text.Decoding
import PacedPurge.Purge.Execution
import PacedPurge.Purge.Pool
import PacedPurge.Purge.Run
import PacedPurge.Purge.Sampling
import PacedPurge.Purge.Unit
import PacedPurge.Purge.Verification
import PacedPurge.RecordId
import PacedPurge.Rehearsal.Generator
import PacedPurge.Rehearsal.Records
import PacedPurge.Scenario.Perform
import PacedPurge.Scenario.Step
import PacedPurge.Site
import PacedPurge.Store.Archive
import PacedPurge.Store.Keyed
import PacedPurge.Store.Memory
import PacedPurge.Store.Request
import PacedPurge.Store.Selection
import PacedPurge.Store.Session
import PacedPurge.Store.Tickets
import PacedPurge.Store.Transaction
import PacedPurge.StoreError
import PacedPurge.Text.Blank
import PacedPurge.Text.CaseTable
import PacedPurge.Text.CodeRanges
import PacedPurge.Text.HiddenTable
import PacedPurge.Text.LowerCase
import PacedPurge.Text.Octets
import PacedPurge.Text.Quoted
import PacedPurge.Together
import PacedPurge.Wire
import PacedPurge.Proofs.Bucket.Cutting
import PacedPurge.Proofs.Store.Gathering
import PacedPurge.Proofs.Store.Paging
import PacedPurge.Proofs.Bucket.Supply
import PacedPurge.Proofs.Purge.Attempts
import PacedPurge.Proofs.Bucket.Intake
import PacedPurge.Proofs.Purge.History
import PacedPurge.Proofs.Purge.Conduct
import PacedPurge.Proofs.Purge.Outcome
import PacedPurge.Proofs.Purge.Calls
import PacedPurge.Proofs.Purge.LiveSafety
import PacedPurge.Proofs.Purge.Simulation
import PacedPurge.Proofs.Purge.Accounting
import PacedPurge.Proofs.Purge.Isolation
import PacedPurge.Proofs.Document.Ordering
import PacedPurge.Proofs.Bucket.Shares
import PacedPurge.Proofs.Bucket.Draining
import PacedPurge.Proofs.Text.OctetOrder
import PacedPurge.Proofs.Filter.Faults
import PacedPurge.Proofs.Bucket.Asking
import PacedPurge.Proofs.Store.Mirroring
import PacedPurge.Proofs.Bucket.Agreement
import PacedPurge.Proofs.Store.Writing
import PacedPurge.Proofs.Bucket.Interleaving
import PacedPurge.Proofs.Bucket.Scanning
import PacedPurge.Proofs.Bucket.Visibility
import PacedPurge.Proofs.Number.Rounding
import PacedPurge.Proofs.Filter.Integers
import PacedPurge.Proofs.Purge.Moves
import PacedPurge.Proofs.Purge.Bookkeeping
import PacedPurge.Proofs.Purge.Diaries
import PacedPurge.Proofs.Purge.Sizes
import PacedPurge.Proofs.Store.Service
import PacedPurge.Proofs.Store.Trades
import PacedPurge.Proofs.Purge.Calm
import PacedPurge.Proofs.Purge.Steadiness
import PacedPurge.Proofs.Purge.Endings
import PacedPurge.Proofs.Purge.Undisturbed
import PacedPurge.Proofs.Purge.Prediction
import PacedPurge.Proofs.Bucket.Taking
import PacedPurge.Proofs.Bucket.Prospects
import PacedPurge.Proofs.Bucket.Calling
import PacedPurge.Proofs.Bucket.Finality
import PacedPurge.Proofs.Bucket.Grouping
import PacedPurge.Proofs.Store.Staging
import PacedPurge.Proofs.Document.Places
import PacedPurge.Proofs.Filter.Clauses
import PacedPurge.Proofs.Store.Deleting
import PacedPurge.Proofs.Purge.Refusal
import PacedPurge.Proofs.Filter.Ranges
import PacedPurge.Proofs.Bucket.Recounting
import PacedPurge.Proofs.Bucket.Oversize
import PacedPurge.Proofs.Purge.Trials
import PacedPurge.Proofs.Purge.Retries
import PacedPurge.Proofs.Load.Tiers
import PacedPurge.Proofs.Load.Losses
import PacedPurge.Proofs.Purge.Silence
import PacedPurge.Proofs.Number.Digits
import PacedPurge.Proofs.Number.Durations
import PacedPurge.Proofs.CommandLine.Options
import PacedPurge.Proofs.CommandLine.Precedence
import PacedPurge.Proofs.Filter.Presence
import PacedPurge.Proofs.Store.Balance
import PacedPurge.Proofs.Json.Spelling
import PacedPurge.Proofs.Json.Rereading
import PacedPurge.Proofs.Json.Limits
import PacedPurge.Proofs.Store.Keeping
