import BatchSync.Channel.Callers
import BatchSync.Channel.Exchanger
import BatchSync.Channel.Throttle
import BatchSync.Column.Conversion
import BatchSync.Config.File
import BatchSync.Config.Validation
import BatchSync.Dirty.Collecting
import BatchSync.Dirty.Collector
import BatchSync.Dirty.Limit
import BatchSync.Failure.Report
import BatchSync.Group.Schedule
import BatchSync.Hang.Monitor
import BatchSync.Json.Reader
import BatchSync.Plugin.Script
import BatchSync.Proofs.Attempt.Conduct
import BatchSync.Proofs.Attempt.LateCalls
import BatchSync.Proofs.Attempt.Lives
import BatchSync.Proofs.Attempt.Passage
import BatchSync.Proofs.Attempt.Threads
import BatchSync.Proofs.Calendar.Days
import BatchSync.Proofs.Calendar.Reading
import BatchSync.Proofs.Channel.Accounting
import BatchSync.Proofs.Channel.Backpressure
import BatchSync.Proofs.Channel.Batches
import BatchSync.Proofs.Channel.Ceilings
import BatchSync.Proofs.Channel.Changes
import BatchSync.Proofs.Channel.Delivery
import BatchSync.Proofs.Channel.Order
import BatchSync.Proofs.Channel.Traffic
import BatchSync.Proofs.Channel.Transfer
import BatchSync.Proofs.Column.ConversionTable
import BatchSync.Proofs.Column.Dates
import BatchSync.Proofs.Column.Fractions
import BatchSync.Proofs.Column.Integers
import BatchSync.Proofs.Column.Narrowing
import BatchSync.Proofs.Column.RoundTrips
import BatchSync.Proofs.Column.Times
import BatchSync.Proofs.Config.Excerpts
import BatchSync.Proofs.Config.Numbers
import BatchSync.Proofs.Dirty.Accounting
import BatchSync.Proofs.Dirty.Ledger
import BatchSync.Proofs.Dirty.Logging
import BatchSync.Proofs.Dirty.Reported
import BatchSync.Proofs.Failure.Classification
import BatchSync.Proofs.Group.Chronicle
import BatchSync.Proofs.Group.Completion
import BatchSync.Proofs.Group.Conduct
import BatchSync.Proofs.Group.Course
import BatchSync.Proofs.Group.Endings
import BatchSync.Proofs.Group.LastReport
import BatchSync.Proofs.Group.Leads
import BatchSync.Proofs.Group.Lives
import BatchSync.Proofs.Group.Outcome
import BatchSync.Proofs.Group.Passage
import BatchSync.Proofs.Group.Places
import BatchSync.Proofs.Group.RootCause
import BatchSync.Proofs.Group.Roster
import BatchSync.Proofs.Group.Settlement
import BatchSync.Proofs.Group.Steps
import BatchSync.Proofs.Group.Stop
import BatchSync.Proofs.Group.Success
import BatchSync.Proofs.Group.Tally
import BatchSync.Proofs.Group.Watch
import BatchSync.Proofs.Hang.History
import BatchSync.Proofs.Json.Unambiguous
import BatchSync.Proofs.Number.Decimals
import BatchSync.Proofs.Number.Digits
import BatchSync.Proofs.Number.Fractions
import BatchSync.Proofs.Number.Rounding
import BatchSync.Proofs.Number.WholeParts
import BatchSync.Proofs.Record.Cache
import BatchSync.Proofs.Record.Text
import BatchSync.Proofs.Retry.Attempts
import BatchSync.Proofs.Retry.Backoff
import BatchSync.Proofs.Retry.Custody
import BatchSync.Proofs.Retry.InTime
import BatchSync.Proofs.Retry.PoolMoves
import BatchSync.Proofs.Retry.Recorded
import BatchSync.Proofs.Retry.TimedMoves
import BatchSync.Proofs.Retry.Whereabouts
import BatchSync.Proofs.Status.Lifecycle
import BatchSync.Proofs.Status.Merging
import BatchSync.Proofs.Text.Utf8
import BatchSync.Proofs.Yaml.Documents
import BatchSync.Proofs.Yaml.Flow
import BatchSync.Proofs.Yaml.Scalars
import BatchSync.Record
import BatchSync.Retry.Loop
import BatchSync.Retry.PoolJobs
import BatchSync.Retry.Timed
import BatchSync.State
import BatchSync.Status.Merge
