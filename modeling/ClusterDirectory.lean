import ClusterDirectory.Main
import ClusterDirectory.Proofs.Change.RoundTrip
import ClusterDirectory.Proofs.Stream.Connections
import ClusterDirectory.Proofs.Directory.Replay
import ClusterDirectory.Proofs.Directory.Store
import ClusterDirectory.Proofs.Json.Spelling
import ClusterDirectory.Proofs.Updates.Stop
import ClusterDirectory.Proofs.Json.Exact.Collection
import ClusterDirectory.Proofs.Json.Exact.Value
import ClusterDirectory.Proofs.Json.Exact.Skip
import ClusterDirectory.Proofs.Resource.Meaning
import ClusterDirectory.Proofs.Change.Format
import ClusterDirectory.Proofs.Directory.Reorder
import ClusterDirectory.Proofs.Frame.Segments
import ClusterDirectory.Proofs.Link.Reconnection
import ClusterDirectory.Proofs.Updates.Accounts
import ClusterDirectory.Proofs.Stream.Pacing
import ClusterDirectory.Proofs.Service.Observers
import ClusterDirectory.Proofs.Http.Lookup
import ClusterDirectory.Proofs.Frame.Wrap
import ClusterDirectory.Proofs.Change.Cut
import ClusterDirectory.Proofs.Json.Loose
import ClusterDirectory.Proofs.Json.Tree
import ClusterDirectory.Proofs.Json.Shuffle
import ClusterDirectory.Proofs.Change.Unique
import ClusterDirectory.Proofs.Change.Order
import ClusterDirectory.Proofs.Change.Lenient
import ClusterDirectory.Proofs.Frame.Shortest
import ClusterDirectory.Proofs.Frame.Room
import ClusterDirectory.Proofs.Frame.Arrival
import ClusterDirectory.Proofs.Link.Standing
import ClusterDirectory.Proofs.Backoff.History
import ClusterDirectory.Proofs.Directory.Size
import ClusterDirectory.Proofs.Stream.Settings
import ClusterDirectory.Proofs.Metrics.Clones
