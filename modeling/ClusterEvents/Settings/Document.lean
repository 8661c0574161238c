import ClusterEvents.Settings.Basic
import ClusterEvents.Bulk.Request
import ClusterEvents.Json.Printer

/-!
# Settings as documents

Settings shown as JSON, under the names that the settings file has for them. A length
of time shows as seconds with the milliseconds beyond them, a setting that is not
given as null.
-/

namespace ClusterEvents

/-- A JSON object with the given members. -/
def Json.object (members : List (String × Json)) : Json :=
  .obj (Object.ofList members)

/-- A text that may be missing. -/
def Json.optionalText : Option String → Json
  | some s => .str s
  | none => .null

/-- A list of texts. -/
def Json.textList (texts : List String) : Json :=
  .arr (texts.map .str)

def Duration.toJson (d : Duration) : Json :=
  Json.object [("secs", .int (d.millis / 1000)), ("millis", .int (d.millis % 1000))]

def SourceKind.name : SourceKind → String
  | .kafka => "Kafka"
  | .file => "File"

def SaslMechanism.name : SaslMechanism → String
  | .plain => "Plain"
  | .scram => "Scram"

def SnapshotBackend.name : SnapshotBackend → String
  | .memory => "Memory"
  | .sqlite => "Sqlite"

def CommitOrdering.name : CommitOrdering → String
  | .immediate => "Immediate"
  | .contiguous => "Contiguous"

def SourceSettings.toJson (s : SourceSettings) : Json :=
  Json.object [
    ("kind", .str s.kind.name),
    ("file", Json.optionalText s.file)]

def KafkaSettings.toJson (s : KafkaSettings) : Json :=
  Json.object [
    ("bootstrap_servers", .str s.bootstrapServers),
    ("topic", .str s.topic),
    ("group_id", .str s.groupId),
    ("client_id", Json.optionalText s.clientId),
    ("client_secret", Json.optionalText s.clientSecret),
    ("sasl_mechanism", .str s.saslMechanism.name)]

def StoreSettings.toJson (s : StoreSettings) : Json :=
  Json.object [
    ("address", .str s.address),
    ("username", Json.optionalText s.username),
    ("password", Json.optionalText s.password),
    ("index_prefix", .str s.indexPrefix),
    ("bulk_flush_bytes", .int s.flushBytes),
    ("bulk_flush_interval", s.flushInterval.toJson),
    ("bulk_timeout", s.timeout.toJson),
    ("ssl_insecure_skip_verify", .bool s.skipVerify)]

def SnapshotSettings.toJson (s : SnapshotSettings) : Json :=
  Json.object [
    ("backend", .str s.backend.name),
    ("db_path", .str s.databasePath),
    ("expiration", s.expiration.toJson)]

def DeliverySettings.toJson (s : DeliverySettings) : Json :=
  Json.object [
    ("ack_channel_buffer", .int s.ackBuffer),
    ("bulk_channel_buffer", .int s.bulkBuffer),
    ("commit_ordering", .str s.ordering.name),
    ("max_pending_offsets", .int s.maxPending)]

def FieldRules.toJson (rules : FieldRules) : Json :=
  Json.object [
    ("unpack", Json.textList rules.unpack),
    ("map_to_list_drop_key", Json.textList rules.listValues),
    ("map_to_list", Json.textList rules.listEntries),
    ("anonymize", .arr (rules.anonymize.map fun (source, target) =>
      Json.textList [source, target])),
    ("delete", Json.textList rules.delete)]

/-- All settings but the field rules, which are shown on their own. -/
def Settings.toJson (s : Settings) : Json :=
  Json.object [
    ("source", s.source.toJson),
    ("kafka", s.kafka.toJson),
    ("opensearch", s.store.toJson),
    ("snapshots", s.snapshots.toJson),
    ("excluded_user_names", Json.textList s.excludedUsers),
    ("delivery", s.delivery.toJson)]

/-- How batches are gathered and sent. -/
def Bulk.Options.toJson (o : Bulk.Options) : Json :=
  Json.object [
    ("address", .str o.address),
    ("username", Json.optionalText o.username),
    ("password", Json.optionalText o.password),
    ("flush_bytes", .int o.flushBytes),
    ("flush_interval", o.flushInterval.toJson),
    ("timeout", o.timeout.toJson),
    ("insecure_skip_verify", .bool o.skipVerify),
    ("channel_buffer", .int o.channelBuffer)]

end ClusterEvents
