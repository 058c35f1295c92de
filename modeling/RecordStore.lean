import RecordStore.CommandLine.Arguments
import RecordStore.CommandLine.Configuration
import RecordStore.CommandLine.Failure
import RecordStore.CommandLine.Files
import RecordStore.CommandLine.Load
import RecordStore.CommandLine.Path
import RecordStore.CommandLine.Run
import RecordStore.Database
import RecordStore.Deletion.Apply
import RecordStore.Deletion.Delete
import RecordStore.Deletion.Plan
import RecordStore.Error
import RecordStore.Index
import RecordStore.Integrity.Check
import RecordStore.Integrity.ParentChain
import RecordStore.Interleaving
import RecordStore.Json.Basic
import RecordStore.Json.Document
import RecordStore.Json.Printer
import RecordStore.Json.Shape
import RecordStore.Main
import RecordStore.Number.Binary64
import RecordStore.Number.Decimal
import RecordStore.Payload.Check
import RecordStore.Payload.Coerce
import RecordStore.Proofs.Admission
import RecordStore.Proofs.Concurrency.Atomic
import RecordStore.Proofs.Concurrency.Calls
import RecordStore.Proofs.Concurrency.Commit
import RecordStore.Proofs.Concurrency.Guard
import RecordStore.Proofs.Concurrency.History
import RecordStore.Proofs.Concurrency.Linearizable
import RecordStore.Proofs.Concurrency.Progress
import RecordStore.Proofs.Concurrency.Protection
import RecordStore.Proofs.Concurrency.System
import RecordStore.Proofs.Concurrency.Warrant
import RecordStore.Proofs.Deletion.Apply
import RecordStore.Proofs.Deletion.Atomicity
import RecordStore.Proofs.Deletion.Depth
import RecordStore.Proofs.Deletion.Effect
import RecordStore.Proofs.Deletion.Exact
import RecordStore.Proofs.Deletion.Plan
import RecordStore.Proofs.Deletion.Pruning
import RecordStore.Proofs.Failure
import RecordStore.Proofs.Index
import RecordStore.Proofs.Integrity.Conformance
import RecordStore.Proofs.Integrity.Lineage
import RecordStore.Proofs.Integrity.LockedFields
import RecordStore.Proofs.Integrity.Parents
import RecordStore.Proofs.Integrity.References
import RecordStore.Proofs.Integrity.Replacement
import RecordStore.Proofs.Integrity.Types
import RecordStore.Proofs.Integrity.UniqueSets
import RecordStore.Proofs.Integrity.Uniqueness
import RecordStore.Proofs.Integrity.ValueUniqueness
import RecordStore.Proofs.Json
import RecordStore.Proofs.Key
import RecordStore.Proofs.Number
import RecordStore.Proofs.Number.Integral
import RecordStore.Proofs.Number.Order
import RecordStore.Proofs.Number.Reading
import RecordStore.Proofs.Number.Rounding
import RecordStore.Proofs.Number.Shortest
import RecordStore.Proofs.Payload
import RecordStore.Proofs.Query.Chronology
import RecordStore.Proofs.Query.Condition
import RecordStore.Proofs.Query.Listing
import RecordStore.Proofs.Query.Order
import RecordStore.Proofs.Query.Params
import RecordStore.Proofs.Query.Range
import RecordStore.Proofs.Query.Reordering
import RecordStore.Proofs.Query.Search
import RecordStore.Proofs.Reference
import RecordStore.Proofs.Resubmission
import RecordStore.Proofs.Schema.Name
import RecordStore.Proofs.Schema.Targets
import RecordStore.Proofs.Schema.Version
import RecordStore.Proofs.Script
import RecordStore.Proofs.Store
import RecordStore.Proofs.Text
import RecordStore.Proofs.Text.Lowercase
import RecordStore.Proofs.Text.Order
import RecordStore.Proofs.Text.Split
import RecordStore.Proofs.Time.Date
import RecordStore.Proofs.Time.Elapsed
import RecordStore.Proofs.Time.Order
import RecordStore.Proofs.Time.Spelling
import RecordStore.Proofs.Time.Timestamp
import RecordStore.Proofs.Timeless
import RecordStore.Proofs.Verdicts
import RecordStore.Query.Filter
import RecordStore.Query.Order
import RecordStore.Query.Page
import RecordStore.Query.Params
import RecordStore.Record
import RecordStore.Schema.Basic
import RecordStore.Schema.Document
import RecordStore.Schema.Lint
import RecordStore.Schema.Resolve
import RecordStore.Script
import RecordStore.Settings
import RecordStore.Store
import RecordStore.Text.Blank
import RecordStore.Text.CaseTable
import RecordStore.Text.Lowercase
import RecordStore.Text.PrintableTable
import RecordStore.Text.Quoted
import RecordStore.Text.Split
import RecordStore.Time.Clock
import RecordStore.Time.Date
import RecordStore.Time.Timestamp
import RecordStore.Ulid
import RecordStore.Value
import RecordStore.Write
