import Oversub.Lib.EarlyFold
import Oversub.Checked
import Oversub.Ids
import Oversub.Status
import Oversub.Digest
import Oversub.Policy
import Oversub.Evidence
import Oversub.Lib.Tally
import Oversub.Engine.Result
import Oversub.Engine.Gather
import Oversub.Engine.Evaluate
import Oversub.Engine.Totals
import Oversub.Engine.Gate
import Oversub.Engine.Standing
import Oversub.Lib.Floor
import Oversub.Engine.Closed
import Oversub.Engine.Cascade
import Oversub.Engine.Grant
import Oversub.Engine.Exact
import Oversub.Engine.Order
import Oversub.Engine.Capacity
import Oversub.Engine.Demand
import Oversub.Protocol
import Oversub.Intake
import Oversub.Lib.Crash
import Oversub.Engine.Use
import Oversub.Lib.Rearrange
import Oversub.Engine.Iteration
import Oversub.Engine.Scope
import Oversub.Engine.Permute
import Oversub.Lib.Table
import Oversub.Lib.Ledger
import Oversub.State
import Oversub.Codec
import Oversub.Lib.Files
import Oversub.Persistence
import Oversub.Runtime.Governor
import Oversub.Runtime.Publish
import Oversub.Runtime.Decide
import Oversub.Lib.Trace
import Oversub.Runtime.Session
import Oversub.Runtime.Effects
import Oversub.Runtime.Calls
import Oversub.Runtime.Acknowledge
import Oversub.Runtime.Authority
import Oversub.Runtime.Later
import Oversub.Runtime.Restart
import Oversub.Runtime.Revalidate
import Oversub.Runtime.Clock
import Oversub.Runtime.Expiry
import Oversub.Runtime.Progress
import Oversub.Journal
import Oversub.Runtime.Room
import Oversub.Runtime.Hysteresis
import Oversub.Replay
import Oversub.Runtime.Cooldown
import Oversub.Runtime.Records
import Oversub.Runtime.Replayed
import Oversub.Runtime.Merge
import Oversub.Runtime.Cancel
import Oversub.Runtime.Books
import Oversub.Runtime.Generations
import Oversub.Runtime.Sequences
import Oversub.Runtime.Logs
import Oversub.Runtime.Upkeep
import Oversub.Runtime.Registrations
import Oversub.Runtime.Compaction
import Oversub.Roundtrip
import Oversub.Lib.Arrivals
import Oversub.Net
import Oversub.Runtime.Control
import Oversub.Runtime.Rollback
import Oversub.Runtime.Atomic
import Oversub.Runtime.Lifecycle
import Oversub.Runtime.Places
import Oversub.Runtime.Installs
import Oversub.Canonical
import Oversub.Runtime.Reinstall
import Oversub.Lib.Holdings
import Oversub.Runtime.Jobs
import Oversub.Runtime.JobCancel
import Oversub.Lib.Takes
import Oversub.Compacted
import Oversub.Salvage
import Oversub.Engine.Breakdown
import Oversub.Engine.Exposure
import Oversub.Engine.Reduction
import Oversub.Fingerprint
import Oversub.Engine.Intents
import Oversub.Engine.Words
import Oversub.Engine.Rows
import Oversub.Engine.Binding
import Oversub.Engine.Naming
import Oversub.Worker
import Oversub.Engine.Explain
import Oversub.Engine.Flat
import Oversub.Runtime.Explanation
import Oversub.Runtime.DecisionCodec
import Oversub.Lib.Halving
import Oversub.PolicyIndex
import Oversub.Lib.Division
import Oversub.LongDivision
import Oversub.Lib.Fips180
import Oversub.Hashing
import Oversub.JournalReads
import Oversub.Runtime.Exchange
import Oversub.Runtime.Backing
import Oversub.Runtime.Retries
import Oversub.Lib.Simulation
import Oversub.Runtime.Coordinator
import Oversub.Runtime.Handlers
import Oversub.Lib.Refusals
import Oversub.Refusals
import Oversub.Runtime.Conversations
import Oversub.Runtime.Serving
import Oversub.Runtime.Stopping
import Oversub.Runtime.Remote
import Oversub.Runtime.Adapters
import Oversub.Runtime.Numbering
import Oversub.Lib.Checkpoint
import Oversub.Runtime.Survival
import Oversub.Runtime.Drain
