import ClusterEvents.Settings.Words
import ClusterEvents.Enriched.Rules

/-!
# Settings

Everything the consumer can be told: where events come from, where documents and
snapshots go, whose activity is left out, and how messages are acknowledged. All of
it has a default.
-/

namespace ClusterEvents

/-- Where events come from. -/
inductive SourceKind where
  | kafka
  /-- A file with one event per line. -/
  | file
deriving DecidableEq, Repr

/-- How the consumer proves who it is to the broker. -/
inductive SaslMechanism where
  | plain
  | scram
deriving DecidableEq, Repr

/-- Where snapshots are kept. -/
inductive SnapshotBackend where
  | memory
  | sqlite
deriving DecidableEq, Repr

/-- How acknowledged messages turn into commits. -/
inductive CommitOrdering where
  /-- Every acknowledged message is committed as it comes. -/
  | immediate
  /-- Only the highest offset is committed before which nothing is outstanding on its
  partition. -/
  | contiguous
deriving DecidableEq, Repr

namespace SourceKind

/-- The source that a word names, in letters of either case. -/
def ofText? (raw : String) : Option SourceKind :=
  match Text.lowercase (Text.trim raw) with
  | "kafka" => some .kafka
  | "file" => some .file
  | _ => none

end SourceKind

namespace SaslMechanism

/-- The mechanism that a word names, in letters of either case. -/
def ofText? (raw : String) : Option SaslMechanism :=
  match Text.uppercase (Text.trim raw) with
  | "PLAIN" => some .plain
  | "SCRAM" | "SCRAM-SHA-512" => some .scram
  | _ => none

end SaslMechanism

namespace SnapshotBackend

/-- The backend that a word names, in letters of either case. -/
def ofText? (raw : String) : Option SnapshotBackend :=
  match Text.lowercase (Text.trim raw) with
  | "memory" => some .memory
  | "sqlite" => some .sqlite
  | _ => none

end SnapshotBackend

namespace CommitOrdering

/-- The ordering that a word names, in letters of either case. -/
def ofText? (raw : String) : Option CommitOrdering :=
  match Text.lowercase (Text.trim raw) with
  | "immediate" => some .immediate
  | "contiguous" => some .contiguous
  | _ => none

end CommitOrdering

/-- Where events are read from. -/
structure SourceSettings where
  kind : SourceKind := .kafka
  file : Option String := none
deriving DecidableEq, Repr

/-- How the broker is reached. -/
structure KafkaSettings where
  bootstrapServers : String := ""
  topic : String := ""
  groupId : String := ""
  clientId : Option String := none
  clientSecret : Option String := none
  saslMechanism : SaslMechanism := .plain
deriving DecidableEq, Repr

/-- How documents reach the search store. -/
structure StoreSettings where
  address : String := ""
  username : Option String := none
  password : Option String := none
  indexPrefix : String := ""
  flushBytes : Nat := 10000000
  flushInterval : Duration := .ofSeconds 120
  timeout : Duration := .ofSeconds 90
  skipVerify : Bool := false
deriving DecidableEq, Repr

/-- Where snapshots are kept, and for how long. -/
structure SnapshotSettings where
  backend : SnapshotBackend := .memory
  databasePath : String := "snapshots.sqlite"
  expiration : Duration := .ofSeconds (720 * 3600)
deriving DecidableEq, Repr

/-- How messages are acknowledged. -/
structure DeliverySettings where
  ackBuffer : Nat := 1000
  bulkBuffer : Nat := 1000
  ordering : CommitOrdering := .immediate
  /-- Offsets that a partition may hold back under contiguous ordering. -/
  maxPending : Nat := 100000
deriving DecidableEq, Repr

/-- Everything the consumer can be told. -/
structure Settings where
  source : SourceSettings := {}
  kafka : KafkaSettings := {}
  store : StoreSettings := {}
  snapshots : SnapshotSettings := {}
  /-- Activity on clusters of these users is left out. -/
  excludedUsers : List String := []
  delivery : DeliverySettings := {}
  rules : FieldRules := .standard
deriving DecidableEq, Repr

/-- Why settings cannot be used. -/
inductive SettingsError where
  /-- The settings file at a path cannot be read. -/
  | unreadable (path reason : String)
  /-- The text of the settings file is not understood. -/
  | unparsable
  /-- A variable has a value that it cannot have. -/
  | invalid (key value : String)
  /-- A setting is needed and not given. -/
  | missing (key : String)
deriving DecidableEq, Repr

end ClusterEvents
