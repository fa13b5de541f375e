import AcceleratorHealth.Lib.OrdMap
import AcceleratorHealth.Lib.Exit
import AcceleratorHealth.Lib.Machine
import AcceleratorHealth.Lib.Codec
import AcceleratorHealth.Lib.Crc
import AcceleratorHealth.Lib.Binary32
import AcceleratorHealth.Enums
import AcceleratorHealth.Wire
import AcceleratorHealth.StrongIdentity
import AcceleratorHealth.Records
import AcceleratorHealth.History
import AcceleratorHealth.StateMachine
import AcceleratorHealth.Readiness
import AcceleratorHealth.Assessment
import AcceleratorHealth.Store
import AcceleratorHealth.Queries
import AcceleratorHealth.Persistence
import AcceleratorHealth.Runs
import AcceleratorHealth.Operations
import AcceleratorHealth.Effects
import AcceleratorHealth.Images
import AcceleratorHealth.Loads
import AcceleratorHealth.Registration
import AcceleratorHealth.Verdicts
import AcceleratorHealth.Evidence
import AcceleratorHealth.Agreement
import AcceleratorHealth.Atomicity
import AcceleratorHealth.Hazards
import AcceleratorHealth.RecoveryPath
import AcceleratorHealth.RecoveryGate
import AcceleratorHealth.Quarantine
import AcceleratorHealth.Fencing
import AcceleratorHealth.ChangeLog
import AcceleratorHealth.Messages
import AcceleratorHealth.Frames
import AcceleratorHealth.WireLaws
import AcceleratorHealth.RoundTrip
import AcceleratorHealth.Corruption
import AcceleratorHealth.Sizes
import AcceleratorHealth.Reloading
import AcceleratorHealth.Views
import AcceleratorHealth.Indexing
import AcceleratorHealth.Bookkeeping
import AcceleratorHealth.Acceptance
import AcceleratorHealth.Identity
import AcceleratorHealth.Refusal
import AcceleratorHealth.Requirements
import AcceleratorHealth.Discharge
import AcceleratorHealth.Coordinator
import AcceleratorHealth.Recovery
import AcceleratorHealth.Lib.Chunks
import AcceleratorHealth.Loops
import AcceleratorHealth.Standing
import AcceleratorHealth.Receiving
import AcceleratorHealth.Restart
import AcceleratorHealth.Withdrawal
import AcceleratorHealth.Staleness
import AcceleratorHealth.Malformed
import AcceleratorHealth.Serving
import AcceleratorHealth.Redelivery
import AcceleratorHealth.Snapshots
import AcceleratorHealth.Incarnations
import AcceleratorHealth.Teardown
import AcceleratorHealth.Lifetimes
import AcceleratorHealth.Lib.Register
import AcceleratorHealth.Arrivals
import AcceleratorHealth.Lost
import AcceleratorHealth.Lib.Truncation
import AcceleratorHealth.BodyLaws
import AcceleratorHealth.Sections
import AcceleratorHealth.Lib.Counter
import AcceleratorHealth.Issuing
import AcceleratorHealth.Service
import AcceleratorHealth.FatalFaults
import AcceleratorHealth.FailedValidations
import AcceleratorHealth.RecoveryDepth
import AcceleratorHealth.PositiveEvidence
import AcceleratorHealth.Lib.Streak
import AcceleratorHealth.Gravity
import AcceleratorHealth.FrameLayout
import AcceleratorHealth.Ages
import AcceleratorHealth.Reasons
import AcceleratorHealth.Thresholds
import AcceleratorHealth.Lib.AppendOnly
import AcceleratorHealth.FaultLog
import AcceleratorHealth.Idempotence
import AcceleratorHealth.Lib.Json
import AcceleratorHealth.Explanation
import AcceleratorHealth.Expiry
import AcceleratorHealth.Coherence
import AcceleratorHealth.Lib.Spelling
import AcceleratorHealth.Lib.Filing
import AcceleratorHealth.Spellings
import AcceleratorHealth.Canonical
import AcceleratorHealth.Checksum
import AcceleratorHealth.Reading
import AcceleratorHealth.Lib.Assembly
import AcceleratorHealth.Streams
import AcceleratorHealth.Lib.Pipe
import AcceleratorHealth.Threads
import AcceleratorHealth.Network
import AcceleratorHealth.Delivery
import AcceleratorHealth.Conversations
import AcceleratorHealth.Lib.Draining
import AcceleratorHealth.Progress
import AcceleratorHealth.Clients
import AcceleratorHealth.Correlation
import AcceleratorHealth.Reports
import AcceleratorHealth.Worker
import AcceleratorHealth.Requests
import AcceleratorHealth.Lib.Files
import AcceleratorHealth.Saving
import AcceleratorHealth.Ordering
import AcceleratorHealth.Querying
import AcceleratorHealth.Replays
import AcceleratorHealth.Histories
