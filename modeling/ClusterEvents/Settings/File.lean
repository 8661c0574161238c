import ClusterEvents.Toml.Reader
import ClusterEvents.Settings.Basic

/-!
# Settings from a file

The file has a table for each group of settings. What it leaves out keeps its default,
and keys it has beside the known ones are passed over, as long as their values can be
read. A group may also be written as a list of its settings in order of declaration;
what follows them there is not even read. `Settings.ofText?` is `none` when the text is
no TOML, or when a known setting has a value of the wrong kind.
-/

namespace ClusterEvents

namespace Toml

mutual

/-- Whether all that stands in a value can be read. -/
def isReadable : Toml → Bool
  | .unreadable => false
  | .list _ items => allReadable items
  | .table _ entries => entriesReadable entries
  | _ => true

def allReadable : List Toml → Bool
  | [] => true
  | item :: rest => item.isReadable && allReadable rest

def entriesReadable : List (String × Toml) → Bool
  | [] => true
  | (_, value) :: rest => value.isReadable && entriesReadable rest

end

/-- The fields of a group: the entries of a table, or the elements of a list in the
order of the names given. The entries under other names must be readable. -/
def fields? (names : List String) : Toml → Option (String → Option Toml)
  | .table _ entries =>
    if entriesReadable (entries.filter fun entry => !names.contains entry.1) then
      some fun name => entries.lookup name
    else none
  | .list _ items => some fun name => (names.zip items).lookup name
  | .moment => some fun _ => none
  | _ => none

def text? : Toml → Option String
  | .str s => some s
  | _ => none

def truth? : Toml → Option Bool
  | .bool b => some b
  | _ => none

/-- A whole number of at most sixty-four bits without sign. -/
def natural? : Toml → Option Nat
  | .int n => if 0 ≤ n ∧ n < Duration.numberBound then some n.toNat else none
  | _ => none

def duration? (v : Toml) : Option Duration :=
  v.text?.bind Words.duration?

def items? : Toml → Option (List Toml)
  | .list _ items => some items
  | _ => none

/-- A list of texts. -/
def texts? (v : Toml) : Option (List String) := do
  (← v.items?).mapM text?

/-- A pair of texts: the first two elements of a list. -/
def pair? : Toml → Option (String × String)
  | .list _ (.str a :: .str b :: _) => some (a, b)
  | _ => none

/-- A list of pairs of texts. -/
def pairs? (v : Toml) : Option (List (String × String)) := do
  (← v.items?).mapM pair?

/-- Whether a table or a list is empty. -/
def isEmptyGroup : Toml → Bool
  | .list _ items => items.isEmpty
  | .table _ entries => entries.isEmpty
  | _ => false

/-- One of several names, exactly as given: a text, or the only key of a table, with
nothing in it. -/
def choice? {α : Type} (choices : List (String × α)) : Toml → Option α
  | .str s => choices.lookup s
  | .table _ [(name, inside)] => if inside.isEmptyGroup then choices.lookup name else none
  | _ => none

/-- A field that may be missing, which then has a default. -/
def orDefault {α : Type} (default : α) (read : Toml → Option α) (v : Option Toml) : Option α :=
  match v with
  | none => some default
  | some v => read v

end Toml

open Toml

namespace SourceSettings

def ofToml? (v : Toml) : Option SourceSettings := do
  let standard : SourceSettings := {}
  let field ← fields? ["kind", "file"] v
  some {
    kind := ← orDefault standard.kind (choice? [("kafka", .kafka), ("file", .file)]) (field "kind")
    file := ← orDefault standard.file (fun v => v.text?.map some) (field "file") }

end SourceSettings

namespace KafkaSettings

def ofToml? (v : Toml) : Option KafkaSettings := do
  let standard : KafkaSettings := {}
  let field ← fields? ["bootstrap_servers", "topic", "group_id", "client_id", "client_secret",
    "sasl_mechanism"] v
  some {
    bootstrapServers := ← orDefault standard.bootstrapServers text? (field "bootstrap_servers")
    topic := ← orDefault standard.topic text? (field "topic")
    groupId := ← orDefault standard.groupId text? (field "group_id")
    clientId := ← orDefault standard.clientId (fun v => v.text?.map some) (field "client_id")
    clientSecret :=
      ← orDefault standard.clientSecret (fun v => v.text?.map some) (field "client_secret")
    saslMechanism := ← orDefault standard.saslMechanism
      (choice? [("PLAIN", .plain), ("SCRAM", .scram)]) (field "sasl_mechanism") }

end KafkaSettings

namespace StoreSettings

def ofToml? (v : Toml) : Option StoreSettings := do
  let standard : StoreSettings := {}
  let field ← fields? ["address", "username", "password", "index_prefix", "bulk_flush_bytes",
    "bulk_flush_interval", "bulk_timeout", "ssl_insecure_skip_verify"] v
  some {
    address := ← orDefault standard.address text? (field "address")
    username := ← orDefault standard.username (fun v => v.text?.map some) (field "username")
    password := ← orDefault standard.password (fun v => v.text?.map some) (field "password")
    indexPrefix := ← orDefault standard.indexPrefix text? (field "index_prefix")
    flushBytes := ← orDefault standard.flushBytes natural? (field "bulk_flush_bytes")
    flushInterval := ← orDefault standard.flushInterval duration? (field "bulk_flush_interval")
    timeout := ← orDefault standard.timeout duration? (field "bulk_timeout")
    skipVerify := ← orDefault standard.skipVerify truth? (field "ssl_insecure_skip_verify") }

end StoreSettings

namespace SnapshotSettings

def ofToml? (v : Toml) : Option SnapshotSettings := do
  let standard : SnapshotSettings := {}
  let field ← fields? ["backend", "db_path", "expiration"] v
  some {
    backend := ← orDefault standard.backend
      (choice? [("memory", .memory), ("sqlite", .sqlite)]) (field "backend")
    databasePath := ← orDefault standard.databasePath text? (field "db_path")
    expiration := ← orDefault standard.expiration duration? (field "expiration") }

end SnapshotSettings

namespace DeliverySettings

def ofToml? (v : Toml) : Option DeliverySettings := do
  let standard : DeliverySettings := {}
  let field ← fields? ["ack_channel_buffer", "bulk_channel_buffer", "commit_ordering",
    "max_pending_offsets"] v
  some {
    ackBuffer := ← orDefault standard.ackBuffer natural? (field "ack_channel_buffer")
    bulkBuffer := ← orDefault standard.bulkBuffer natural? (field "bulk_channel_buffer")
    ordering := ← orDefault standard.ordering
      (choice? [("immediate", .immediate), ("contiguous", .contiguous)]) (field "commit_ordering")
    maxPending := ← orDefault standard.maxPending natural? (field "max_pending_offsets") }

end DeliverySettings

namespace FieldRules

/-- The rules in a group of a settings file. -/
def ofToml? (v : Toml) : Option FieldRules := do
  let field ← fields? fieldNames v
  some {
    unpack := ← orDefault standard.unpack Toml.texts? (field "unpack")
    listValues := ← orDefault standard.listValues Toml.texts? (field "map_to_list_drop_key")
    listEntries := ← orDefault standard.listEntries Toml.texts? (field "map_to_list")
    anonymize := ← orDefault standard.anonymize Toml.pairs? (field "anonymize")
    delete := ← orDefault standard.delete Toml.texts? (field "delete") }

end FieldRules

namespace Settings

/-- The users in the group that says whose activity is left out. -/
def excludedOfToml? (v : Toml) : Option (List String) := do
  let field ← fields? ["excluded_user_names"] v
  orDefault [] texts? (field "excluded_user_names")

/-- The settings in a table of groups. -/
def ofToml? (v : Toml) : Option Settings := do
  let standard : Settings := {}
  let field ← fields? ["source", "kafka", "opensearch", "snapshots", "projection", "delivery",
    "rules"] v
  some {
    source := ← orDefault standard.source SourceSettings.ofToml? (field "source")
    kafka := ← orDefault standard.kafka KafkaSettings.ofToml? (field "kafka")
    store := ← orDefault standard.store StoreSettings.ofToml? (field "opensearch")
    snapshots := ← orDefault standard.snapshots SnapshotSettings.ofToml? (field "snapshots")
    excludedUsers := ← orDefault standard.excludedUsers excludedOfToml? (field "projection")
    delivery := ← orDefault standard.delivery DeliverySettings.ofToml? (field "delivery")
    rules := ← orDefault standard.rules FieldRules.ofToml? (field "rules") }

/-- The settings in the text of a file. -/
def ofText? (s : String) : Option Settings := do
  ofToml? (← Toml.ofText? s)

end Settings

end ClusterEvents
