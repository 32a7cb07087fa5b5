import JobResults.OrderedMap
import JobResults.Bytes
import JobResults.Text.Blank
import JobResults.Text.LowerCase
import JobResults.Text.Quoted
import JobResults.Text.Alphanumeric
import JobResults.Binary64.Decimal
import JobResults.Duration.Data
import JobResults.Duration.Json
import JobResults.Clock
import JobResults.Metrics
import JobResults.Outcome
import JobResults.Command
import JobResults.StoreError
import JobResults.Embedded.RowKey
import JobResults.Memory.Store
import JobResults.Embedded.Store
import JobResults.Backend
import JobResults.ResultStore
import JobResults.Wire.Session
import JobResults.Toml.Document
import JobResults.Config.KeyPath
import JobResults.Text.Repaired
import JobResults.Config.Conversion
import JobResults.Config.Decode
import JobResults.Config.Environment
import JobResults.Config.Validity
import JobResults.Files
import JobResults.Config.EnvironmentFile
import JobResults.Config.Load
import JobResults.CommandLine.Arguments
import JobResults.CommandLine.Execution
import JobResults.Main
import JobResults.Proofs.OrderedMap
import JobResults.Proofs.Ranking
import JobResults.Proofs.Contents
import JobResults.Proofs.Revision
import JobResults.Proofs.Memory.RankedSet
import JobResults.Proofs.Memory.Store
import JobResults.Proofs.Memory.History
import JobResults.Proofs.Embedded.RowKey
import JobResults.Proofs.Embedded.Entries
import JobResults.Proofs.Embedded.Representation
import JobResults.Proofs.Embedded.Staging
import JobResults.Proofs.Embedded.Commit
import JobResults.Proofs.Embedded.Reachable
import JobResults.Proofs.Embedded.Expiry
import JobResults.Proofs.Embedded.Locality
import JobResults.Proofs.Embedded.CommitOrder
import JobResults.Proofs.Embedded.Trimming
import JobResults.Proofs.BackendEquivalence
import JobResults.Proofs.Replay
import JobResults.Proofs.Eviction
import JobResults.Proofs.Trimming
import JobResults.Proofs.JobTable
import JobResults.Proofs.Cutoff
import JobResults.Proofs.Engine
import JobResults.Proofs.JobSystem
import JobResults.Proofs.DirectStore
import JobResults.Proofs.Traffic
import JobResults.Proofs.Closing
import JobResults.Proofs.StoreRun
import JobResults.Proofs.AfterShutdown
import JobResults.Proofs.Happenings
import JobResults.Proofs.Accounts
import JobResults.Proofs.Staleness
import JobResults.Proofs.Isolation
import JobResults.Proofs.PurgeCycle
import JobResults.Proofs.Memory.Engine
import JobResults.Proofs.Deletion
import JobResults.Proofs.Batching
import JobResults.Proofs.Config.Password
import JobResults.Proofs.Config.Setting
import JobResults.Proofs.Config.Layers
import JobResults.Proofs.Memory.Slots
import JobResults.Proofs.Overtaking
import JobResults.Proofs.Text.Numeral
import JobResults.Proofs.Text.LowerCase
import JobResults.Proofs.Text.Repaired
import JobResults.Proofs.Toml.Quoted
import JobResults.Proofs.Binary64.Reading
import JobResults.Proofs.Duration.Grammar
import JobResults.Proofs.Duration.RoundTrip
import JobResults.Proofs.Config.EnvironmentText
import JobResults.Proofs.Config.Override
import JobResults.Proofs.LoopTasks
import JobResults.Proofs.LoopPolls
import JobResults.Proofs.Dropping
import JobResults.Proofs.Wire.Request
