import ClusterEvents.Enriched.Assembly
import ClusterEvents.Snapshots.Repository

/-!
# What an event calls for

An event that says something about the state of an entity replaces what is known of
it. An activity becomes a document, put together from what is known of its cluster,
unless the cluster belongs to an excluded user. Events that can never be processed are
discarded, and events of unknown names are refused.

`Projection.decide` makes this decision from an event and from what a look at the
snapshots gives, which may fail. What could not be looked at counts as unknown.
-/

namespace ClusterEvents

/-- Where an event leads by its name and its payload alone. -/
inductive Route where
  | change (change : StateChange)
  | activity (cluster : String)
  | malformed (fault : Event.Malformed)
  | unknown (name : String)
deriving DecidableEq

namespace Event

/-- The entity that a state event is about. -/
def entity (e : Event) (entity : String → String → Entity) : Except Malformed Entity := do
  let id ← e.requireText "id"
  let cluster ← e.requireText "cluster_id"
  .ok (entity cluster id)

/-- A new state of an entity, once the entity is known. -/
def changeOf (e : Event) (entity : Except Malformed Entity) : Route :=
  match entity with
  | .ok entity => .change ⟨entity, e.payload⟩
  | .error fault => .malformed fault

/-- Where an event leads. -/
def route (e : Event) : Route :=
  match e.kind? with
  | none => .unknown e.name
  | some .activity =>
    match e.requireText "cluster_id" with
    | .ok cluster => .activity cluster
    | .error fault => .malformed fault
  | some .clusterState => e.changeOf ((e.requireText "id").map .cluster)
  | some .hostState => e.changeOf (e.entity .host)
  | some .infraEnvState => e.changeOf (e.entity .infraEnv)

end Event

/-- What looking at the snapshots of a cluster gives. -/
structure Reads where
  cluster : Except SnapshotError Snapshot
  hosts : Except SnapshotError (List Snapshot)
  infraEnvs : Except SnapshotError (List Snapshot)

/-- What a store knows of a cluster. -/
def SnapshotStore.reads (now : Int) (store : SnapshotStore) (cluster : String) : Reads where
  cluster := .ok (store.cluster now cluster).1
  hosts := .ok (store.hosts now cluster).1
  infraEnvs := .ok (store.infraEnvs now cluster).1

/-- What is found, or what stands for it when it could not be looked at. -/
def foundOr {ε α : Type} (default : α) (found : Except ε α) : α :=
  match found with
  | .ok x => x
  | .error _ => default

/-- What an event calls for. -/
inductive Decision where
  /-- It can never be processed. -/
  | discard
  /-- It is the new state of an entity. -/
  | update (change : StateChange)
  /-- It is an activity on a cluster of an excluded user. -/
  | skip (cluster : String)
  /-- It is an activity, with its document. -/
  | store (cluster : String) (document : EnrichedEvent)
  /-- Its name is unknown. -/
  | refuse (name : String)
deriving DecidableEq

/-- How events are turned into snapshots and documents. -/
structure Projection where
  rules : FieldRules := .standard
  /-- Activity on clusters of these users is left out. -/
  excluded : List String := []
  indexPrefix : String := ""
deriving DecidableEq, Repr

namespace Projection

/-- Whether a cluster belongs to an excluded user. -/
def isExcluded (p : Projection) (cluster : Snapshot) : Bool :=
  ((cluster.get? "user_name").bind Json.text?).any fun user => p.excluded.contains user

/-- What an event calls for. -/
def decide (p : Projection) (reads : String → Reads) (e : Event) : Decision :=
  match e.route with
  | .unknown name => .refuse name
  | .malformed _ => .discard
  | .change change => .update change
  | .activity cluster =>
    let known := reads cluster
    let snapshot := foundOr Object.empty known.cluster
    if p.isExcluded snapshot then .skip cluster
    else
      .store cluster
        (EnrichedEvent.enrich p.rules e snapshot (foundOr [] known.hosts)
          (foundOr [] known.infraEnvs))

/-- What bytes call for: what is no event is discarded. -/
def decideBytes (p : Projection) (reads : String → Reads) (bytes : Bytes) : Decision :=
  match Event.ofBytes bytes with
  | .ok e => p.decide reads e
  | .error _ => .discard

end Projection

/-- A call to the snapshots. -/
inductive SnapshotCall where
  | write (change : StateChange)
  | readCluster (cluster : String)
  | readHosts (cluster : String)
  | readInfraEnvs (cluster : String)
deriving DecidableEq

/-- The calls to the snapshots that a decision takes and leads to. -/
def Decision.calls : Decision → List SnapshotCall
  | .discard | .refuse _ => []
  | .update change => [.write change]
  | .skip cluster => [.readCluster cluster]
  | .store cluster _ => [.readCluster cluster, .readHosts cluster, .readInfraEnvs cluster]

end ClusterEvents
