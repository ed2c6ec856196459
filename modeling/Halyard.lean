import Halyard.Bytes.Compression
import Halyard.Client
import Halyard.Daemon.Admin
import Halyard.Json.Printer
import Halyard.Main
import Halyard.Matching
import Halyard.Proofs.Backoff
import Halyard.Proofs.Evaluation.Context
import Halyard.Proofs.FlagSets
import Halyard.Proofs.Gates
import Halyard.Proofs.Push.Channels
import Halyard.Proofs.Push.Deliveries
import Halyard.Proofs.Push.Finality
import Halyard.Proofs.Push.Inline
import Halyard.Proofs.Push.Occupancy
import Halyard.Proofs.Push.Reconnects
import Halyard.Proofs.Push.Sessions
import Halyard.Proofs.Push.Transitions
import Halyard.Proofs.Push.Written
import Halyard.Proofs.Rule.RoundTrip
import Halyard.Proofs.Store.Batches
import Halyard.Proofs.Store.Closure
import Halyard.Proofs.Store.Deltas
import Halyard.Proofs.Store.Discovery
import Halyard.Proofs.Store.Fetching
import Halyard.Proofs.Store.History
import Halyard.Proofs.Store.Live
import Halyard.Proofs.Store.Mentions
import Halyard.Proofs.Store.Redelivery
import Halyard.Proofs.Store.Segments
import Halyard.Proofs.Store.Versions
import Halyard.Proofs.Virtual.Announcements
import Halyard.Proofs.Virtual.Coalescing
import Halyard.Proofs.Virtual.Counting
import Halyard.Proofs.Virtual.Discovery
import Halyard.Proofs.Virtual.Readiness
import Halyard.Proofs.Virtual.Refreshes
import Halyard.Proofs.Virtual.Registering
import Halyard.Proofs.Virtual.Rejections
import Halyard.Proofs.Virtual.Stopping
import Halyard.Push.Connection
import Halyard.Virtual.Lifecycle
import Halyard.Virtual.Ticking
