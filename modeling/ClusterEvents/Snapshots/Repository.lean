import ClusterEvents.Snapshots.Memory
import ClusterEvents.Snapshots.Durable
import ClusterEvents.Snapshots.Fault
import ClusterEvents.Enriched.Assembly

/-!
# Snapshots

The last known state of clusters, hosts and infra-envs. All clusters share one group of
a store; the hosts of a cluster have a group, and so have its infra-envs. A payload is
kept as JSON text; what is no object is kept too, but never shown.

`SnapshotStore` puts the two kinds of stores behind one set of operations.
-/

namespace ClusterEvents

/-- Something whose state is kept. -/
inductive Entity where
  | cluster (id : String)
  | host (cluster id : String)
  | infraEnv (cluster id : String)
deriving DecidableEq, Repr

/-- The group of all clusters. -/
def clustersGroup : String := "clusters"

/-- The group of the hosts of a cluster. -/
def hostsGroup (cluster : String) : String :=
  "hosts_" ++ cluster

/-- The group of the infra-envs of a cluster. -/
def infraEnvsGroup (cluster : String) : String :=
  "infraenvs_" ++ cluster

namespace Entity

/-- The group that an entity belongs to. -/
def group : Entity → String
  | .cluster _ => clustersGroup
  | .host c _ => hostsGroup c
  | .infraEnv c _ => infraEnvsGroup c

/-- The identifier of an entity inside of its group. -/
def id : Entity → String
  | .cluster id => id
  | .host _ id => id
  | .infraEnv _ id => id

end Entity

/-- A new state of an entity. -/
structure StateChange where
  entity : Entity
  payload : Json
deriving DecidableEq

/-- A store of either kind. -/
inductive SnapshotStore where
  | memory (store : MemoryStore)
  | durable (expiration : Duration) (store : DurableStore)
deriving DecidableEq, Repr

namespace SnapshotStore

/-- Puts a text into a group. -/
def put (now : Int) (group id text : String) : SnapshotStore → SnapshotStore
  | .memory s => .memory (s.put now group id text)
  | .durable expiration s => .durable expiration (s.put now expiration group id text)

/-- The text of an identifier in a group. -/
def get? (now : Int) (group id : String) : SnapshotStore → Option String × SnapshotStore
  | .memory s => (s.get? now group id, .memory s)
  | .durable expiration s =>
    let (text, s) := s.get? now group id
    (text, .durable expiration s)

/-- The texts of a group in ascending order of identifiers. -/
def getAll (now : Int) (group : String) : SnapshotStore → List (String × String) × SnapshotStore
  | .memory s => (s.getAll now group, .memory s)
  | .durable expiration s =>
    let (entries, s) := s.getAll now group
    (entries, .durable expiration s)

/-- The snapshot that a text holds, if it is the text of an object. -/
def decode? (text : String) : Option Snapshot :=
  match Json.ofText text with
  | .ok (.obj snapshot) => some snapshot
  | _ => none

/-- Keeps a new state of an entity. -/
def write (now : Int) (change : StateChange) (s : SnapshotStore) : SnapshotStore :=
  s.put now change.entity.group change.entity.id change.payload.print

/-- What is known of a cluster; nothing is known of one that was never written. -/
def cluster (now : Int) (id : String) (s : SnapshotStore) : Snapshot × SnapshotStore :=
  let (text, s) := s.get? now clustersGroup id
  ((text.bind decode?).getD Object.empty, s)

/-- The snapshots of a group in ascending order of identifiers. -/
def list (now : Int) (group : String) (s : SnapshotStore) : List Snapshot × SnapshotStore :=
  let (entries, s) := s.getAll now group
  (entries.filterMap fun entry => decode? entry.2, s)

/-- What is known of the hosts of a cluster. -/
def hosts (now : Int) (cluster : String) (s : SnapshotStore) : List Snapshot × SnapshotStore :=
  s.list now (hostsGroup cluster)

/-- What is known of the infra-envs of a cluster. -/
def infraEnvs (now : Int) (cluster : String) (s : SnapshotStore) :
    List Snapshot × SnapshotStore :=
  s.list now (infraEnvsGroup cluster)

end SnapshotStore

end ClusterEvents
