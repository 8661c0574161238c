import ClusterEvents.Settings.Basic
import ClusterEvents.Text.Quoted

/-!
# Settings from the environment

A `Variable` is a setting that the environment can change. It knows its key, the type
of its values, how a value is read, and its place in the settings (`get` and `put`).
Variables are read one by one in a fixed order; the first value that cannot be read
stops the reading.

`Variable.get_put_self` and `Variable.get_put_of_ne` say that variables have separate
places: putting one leaves all others as they were.
-/

namespace ClusterEvents

/-- The values of environment variables by their keys. -/
abbrev Environment := String → Option String

namespace Environment

/-- The environment with the given variables. -/
def ofList (given : List (String × String)) : Environment := fun key =>
  given.lookup key

/-- The value under a key without blanks at its ends; a blank value counts as
absent. -/
def given? (env : Environment) (key : String) : Option String :=
  ((env key).map Text.trim).filter fun value => !value.isEmpty

end Environment

/-- A setting that the environment can change. -/
inductive Variable where
  | sourceKind | sourceFile
  | bootstrapServers | topic | groupId | clientId | clientSecret | saslMechanism
  | address | username | password | indexPrefix
  | flushBytes | flushInterval | timeout | skipVerify
  | backend | databasePath | expiration
  | excludedUsers
  | ackBuffer | bulkBuffer | ordering | maxPending
deriving DecidableEq, Repr

namespace Variable

/-- The variables in the order in which they are read. -/
def all : List Variable := [
  .sourceKind, .sourceFile,
  .bootstrapServers, .topic, .groupId, .clientId, .clientSecret, .saslMechanism,
  .address, .username, .password, .indexPrefix,
  .flushBytes, .flushInterval, .timeout, .skipVerify,
  .backend, .databasePath, .expiration,
  .excludedUsers,
  .ackBuffer, .bulkBuffer, .ordering, .maxPending]

/-- The key of a variable in the environment. -/
def key : Variable → String
  | .sourceKind => "EVS_SOURCE"
  | .sourceFile => "EVS_SOURCE_FILE"
  | .bootstrapServers => "KAFKA_BOOTSTRAP_SERVER"
  | .topic => "KAFKA_EVENT_STREAM_TOPIC"
  | .groupId => "KAFKA_GROUP_ID"
  | .clientId => "KAFKA_CLIENT_ID"
  | .clientSecret => "KAFKA_CLIENT_SECRET"
  | .saslMechanism => "KAFKA_SASL_MECHANISM"
  | .address => "OPENSEARCH_ADDRESS"
  | .username => "OPENSEARCH_USERNAME"
  | .password => "OPENSEARCH_PASSWORD"
  | .indexPrefix => "OPENSEARCH_INDEX_PREFIX"
  | .flushBytes => "OPENSEARCH_BULK_FLUSH_BYTES"
  | .flushInterval => "OPENSEARCH_BULK_FLUSH_INTERVAL"
  | .timeout => "OPENSEARCH_BULK_TIMEOUT"
  | .skipVerify => "OPENSEARCH_SSL_INSECURE_SKIP_VERIFY"
  | .backend => "SNAPSHOT_BACKEND"
  | .databasePath => "SNAPSHOT_DB_PATH"
  | .expiration => "SNAPSHOT_EXPIRATION"
  | .excludedUsers => "EXCLUDED_USER_NAMES"
  | .ackBuffer => "ACK_CHANNEL_BUFFER_SIZE"
  | .bulkBuffer => "BULK_CHANNEL_BUFFER_SIZE"
  | .ordering => "COMMIT_ORDERING"
  | .maxPending => "MAX_PENDING_OFFSETS"

/-- The type of a variable's values. -/
def Value : Variable → Type
  | .sourceKind => SourceKind
  | .sourceFile | .clientId | .clientSecret | .username | .password => Option String
  | .bootstrapServers | .topic | .groupId | .address | .indexPrefix | .databasePath => String
  | .saslMechanism => SaslMechanism
  | .flushBytes | .ackBuffer | .bulkBuffer | .maxPending => Nat
  | .flushInterval | .timeout | .expiration => Duration
  | .skipVerify => Bool
  | .backend => SnapshotBackend
  | .excludedUsers => List String
  | .ordering => CommitOrdering

/-- The value that a text stands for. -/
def parse? : (v : Variable) → String → Option v.Value
  | .sourceKind, raw => SourceKind.ofText? raw
  | .sourceFile, raw => some (some raw)
  | .bootstrapServers, raw => some raw
  | .topic, raw => some raw
  | .groupId, raw => some raw
  | .clientId, raw => some (some raw)
  | .clientSecret, raw => some (some raw)
  | .saslMechanism, raw => SaslMechanism.ofText? raw
  | .address, raw => some raw
  | .username, raw => some (some raw)
  | .password, raw => some (some raw)
  | .indexPrefix, raw => some raw
  | .flushBytes, raw => Words.number? raw
  | .flushInterval, raw => Words.duration? raw
  | .timeout, raw => Words.duration? raw
  | .skipVerify, raw => Words.truth? raw
  | .backend, raw => SnapshotBackend.ofText? raw
  | .databasePath, raw => some raw
  | .expiration, raw => Words.duration? raw
  | .excludedUsers, raw => some (Words.items raw)
  | .ackBuffer, raw => Words.number? raw
  | .bulkBuffer, raw => Words.number? raw
  | .ordering, raw => CommitOrdering.ofText? raw
  | .maxPending, raw => Words.number? raw

/-- The value of a variable in settings. -/
def get : (v : Variable) → Settings → v.Value
  | .sourceKind, s => s.source.kind
  | .sourceFile, s => s.source.file
  | .bootstrapServers, s => s.kafka.bootstrapServers
  | .topic, s => s.kafka.topic
  | .groupId, s => s.kafka.groupId
  | .clientId, s => s.kafka.clientId
  | .clientSecret, s => s.kafka.clientSecret
  | .saslMechanism, s => s.kafka.saslMechanism
  | .address, s => s.store.address
  | .username, s => s.store.username
  | .password, s => s.store.password
  | .indexPrefix, s => s.store.indexPrefix
  | .flushBytes, s => s.store.flushBytes
  | .flushInterval, s => s.store.flushInterval
  | .timeout, s => s.store.timeout
  | .skipVerify, s => s.store.skipVerify
  | .backend, s => s.snapshots.backend
  | .databasePath, s => s.snapshots.databasePath
  | .expiration, s => s.snapshots.expiration
  | .excludedUsers, s => s.excludedUsers
  | .ackBuffer, s => s.delivery.ackBuffer
  | .bulkBuffer, s => s.delivery.bulkBuffer
  | .ordering, s => s.delivery.ordering
  | .maxPending, s => s.delivery.maxPending

/-- The settings with another value of a variable. -/
def put : (v : Variable) → v.Value → Settings → Settings
  | .sourceKind, x, s => { s with source.kind := x }
  | .sourceFile, x, s => { s with source.file := x }
  | .bootstrapServers, x, s => { s with kafka.bootstrapServers := x }
  | .topic, x, s => { s with kafka.topic := x }
  | .groupId, x, s => { s with kafka.groupId := x }
  | .clientId, x, s => { s with kafka.clientId := x }
  | .clientSecret, x, s => { s with kafka.clientSecret := x }
  | .saslMechanism, x, s => { s with kafka.saslMechanism := x }
  | .address, x, s => { s with store.address := x }
  | .username, x, s => { s with store.username := x }
  | .password, x, s => { s with store.password := x }
  | .indexPrefix, x, s => { s with store.indexPrefix := x }
  | .flushBytes, x, s => { s with store.flushBytes := x }
  | .flushInterval, x, s => { s with store.flushInterval := x }
  | .timeout, x, s => { s with store.timeout := x }
  | .skipVerify, x, s => { s with store.skipVerify := x }
  | .backend, x, s => { s with snapshots.backend := x }
  | .databasePath, x, s => { s with snapshots.databasePath := x }
  | .expiration, x, s => { s with snapshots.expiration := x }
  | .excludedUsers, x, s => { s with excludedUsers := x }
  | .ackBuffer, x, s => { s with delivery.ackBuffer := x }
  | .bulkBuffer, x, s => { s with delivery.bulkBuffer := x }
  | .ordering, x, s => { s with delivery.ordering := x }
  | .maxPending, x, s => { s with delivery.maxPending := x }

theorem get_put_self (v : Variable) (x : v.Value) (s : Settings) : v.get (v.put x s) = x := by
  cases v <;> rfl

theorem get_put_of_ne {v w : Variable} (h : w ≠ v) (x : v.Value) (s : Settings) :
    w.get (v.put x s) = w.get s := by
  cases v <;> cases w <;> (try contradiction) <;> rfl

/-- The text that the environment gives for a variable. A blank text counts as absent,
but for the list of excluded users, which a blank text empties. -/
def given? (v : Variable) (env : Environment) : Option String :=
  if v = .excludedUsers then env v.key else env.given? v.key

/-- Takes over the value that the environment gives for a variable, if it gives
one. -/
def apply (env : Environment) (v : Variable) (s : Settings) : Except SettingsError Settings :=
  match v.given? env with
  | none => .ok s
  | some raw =>
    match v.parse? raw with
    | some x => .ok (v.put x s)
    | none => .error (.invalid v.key raw)

end Variable

namespace Settings

/-- Takes over the values of variables one after the other. The settings reached come
back in any case, with the reason if the reading stopped before its end. -/
def takeOver (env : Environment) : List Variable → Settings → Settings × Option SettingsError
  | [], s => (s, none)
  | v :: rest, s =>
    match v.apply env s with
    | .ok s => takeOver env rest s
    | .error e => (s, some e)

/-- The settings with what the environment changes in them. -/
def withEnvironment (env : Environment) (s : Settings) : Settings × Option SettingsError :=
  takeOver env Variable.all s

/-- A variable that must not be empty. -/
def need (v : Variable) (isGiven : Bool) : Except SettingsError Unit :=
  if isGiven then .ok () else .error (.missing v.key)

/-- A variable whose value must not be zero, with the text of zero. -/
def needPositive (v : Variable) (n : Nat) (zero : String) : Except SettingsError Unit :=
  if n = 0 then .error (.invalid v.key zero) else .ok ()

/-- What the chosen source needs. -/
def checkSource (s : Settings) : Except SettingsError Unit :=
  match s.source.kind with
  | .kafka => do
    need .bootstrapServers (!s.kafka.bootstrapServers.isEmpty)
    need .topic (!s.kafka.topic.isEmpty)
    need .groupId (!s.kafka.groupId.isEmpty)
    need .clientSecret (s.kafka.clientId.isNone || s.kafka.clientSecret.isSome)
  | .file => need .sourceFile s.source.file.isSome

/-- Whether all is given that a run needs. -/
def check (s : Settings) : Except SettingsError Unit := do
  s.checkSource
  need .address (!s.store.address.isEmpty)
  needPositive .flushBytes s.store.flushBytes "0"
  needPositive .flushInterval s.store.flushInterval.millis "0s"
  needPositive .ackBuffer s.delivery.ackBuffer "0"
  needPositive .bulkBuffer s.delivery.bulkBuffer "0"
  needPositive .maxPending s.delivery.maxPending "0"

end Settings

namespace SettingsError

/-- The error in words. -/
def message : SettingsError → String
  | .unreadable path reason => s!"failed to read config file {path}: {reason}"
  | .unparsable => "failed to parse config file"
  | .invalid key value => s!"invalid value for {key}: {Text.quote value}"
  | .missing key => s!"missing required setting {key}"

end SettingsError

end ClusterEvents
