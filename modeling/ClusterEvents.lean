import ClusterEvents.Binary64.Scaled
import ClusterEvents.Binary64.Shortest
import ClusterEvents.Json.Equality
import ClusterEvents.Text.Glyph
import ClusterEvents.Json.Printer
import ClusterEvents.Json.Reader
import ClusterEvents.Json.Edit
import ClusterEvents.Digest.Md5
import ClusterEvents.Digest.NameId
import ClusterEvents.Json.Record
import ClusterEvents.Text.Quoted
import ClusterEvents.Event.Basic
import ClusterEvents.Enriched.Basic
import ClusterEvents.Enriched.Assembly
import ClusterEvents.Enriched.Index
import ClusterEvents.Settings.Environment
import ClusterEvents.Settings.File
import ClusterEvents.Settings.Document
import ClusterEvents.Stream.Channel
import ClusterEvents.Stream.Tracker
import ClusterEvents.Stream.LocalQueue
import ClusterEvents.Snapshots.Repository
import ClusterEvents.Bulk.Request
import ClusterEvents.Bulk.Indexer
import ClusterEvents.Consumer.Schedule
import ClusterEvents.Settings.Loading
import ClusterEvents.Files.Database
import ClusterEvents.Logging.Setup
import ClusterEvents.Main
import ClusterEvents.Proofs.Tracker.Frontier
import ClusterEvents.Proofs.Tracker.Lateness
import ClusterEvents.Proofs.Tracker.AnyHistory
import ClusterEvents.Proofs.Tracker.Partitions
import ClusterEvents.Proofs.Consumer.AtLeastOnce
import ClusterEvents.Proofs.Consumer.ExactlyOnce
import ClusterEvents.Proofs.Consumer.OneDisposition
import ClusterEvents.Proofs.Bulk.Sessions
import ClusterEvents.Proofs.Json.Alter
import ClusterEvents.Proofs.Json.Records
import ClusterEvents.Proofs.Json.Printed
import ClusterEvents.Proofs.Json.Depth
import ClusterEvents.Proofs.Json.Writes
import ClusterEvents.Proofs.Json.Moves
import ClusterEvents.Proofs.Json.Updates
import ClusterEvents.Proofs.Json.Rewrites
import ClusterEvents.Proofs.Json.Parents
import ClusterEvents.Proofs.Json.Renames
import ClusterEvents.Proofs.Enriched.Standard
import ClusterEvents.Proofs.Enriched.Documents
import ClusterEvents.Proofs.Enriched.Redaction
import ClusterEvents.Proofs.Enriched.Pseudonyms
import ClusterEvents.Proofs.Enriched.Shape
import ClusterEvents.Proofs.Enriched.AnyRules
import ClusterEvents.Proofs.Enriched.Wire
import ClusterEvents.Proofs.Enriched.Tidiness
import ClusterEvents.Proofs.Enriched.Copies
import ClusterEvents.Proofs.Enriched.Listings
import ClusterEvents.Proofs.Enriched.Architectures
import ClusterEvents.Proofs.Enriched.Summaries
import ClusterEvents.Proofs.Stream.Replay
import ClusterEvents.Proofs.Projection.Redelivery
import ClusterEvents.Proofs.Snapshots.Holdings
import ClusterEvents.Proofs.Snapshots.Knowledge
import ClusterEvents.Proofs.Snapshots.LastWrite
import ClusterEvents.Proofs.Projection.Latest
import ClusterEvents.Proofs.Projection.Whereabouts
import ClusterEvents.Proofs.Bulk.Batches
import ClusterEvents.Proofs.Bulk.Framing
import ClusterEvents.Proofs.Bulk.Closing
import ClusterEvents.Proofs.Consumer.Progress
import ClusterEvents.Proofs.Snapshots.Retention
import ClusterEvents.Proofs.Calendar.Days
import ClusterEvents.Proofs.Calendar.Instants
import ClusterEvents.Proofs.Enriched.Indices
import ClusterEvents.Proofs.Digest.NameIds
import ClusterEvents.Proofs.Enriched.Identifiers
import ClusterEvents.Proofs.Settings.Overrides
import ClusterEvents.Proofs.Settings.Durations
import ClusterEvents.Proofs.Stream.Order
