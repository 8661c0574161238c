/-!
# Kinds of events

The name of an event says what it is: an activity, or the new state of a cluster, a
host or an infra-env. `Kind.ofName?_name` and `Kind.name_of_ofName?` say that names
and kinds determine each other.
-/

namespace ClusterEvents.Event

/-- What an event is about. -/
inductive Kind where
  /-- Something that happened to a cluster at some time. -/
  | activity
  | clusterState
  | hostState
  | infraEnvState
deriving DecidableEq, Repr

namespace Kind

/-- The name that events of a kind carry. -/
def name : Kind → String
  | .activity => "Event"
  | .clusterState => "ClusterState"
  | .hostState => "HostState"
  | .infraEnvState => "InfraEnv"

/-- The kind that a name stands for. -/
def ofName? (name : String) : Option Kind :=
  if name = "Event" then some .activity
  else if name = "ClusterState" then some .clusterState
  else if name = "HostState" then some .hostState
  else if name = "InfraEnv" then some .infraEnvState
  else none

/-- Whether an event of this kind replaces what is known of an entity. -/
def isState : Kind → Bool
  | .activity => false
  | _ => true

theorem ofName?_name (k : Kind) : ofName? k.name = some k := by
  cases k <;> decide

theorem name_of_ofName? {name : String} {k : Kind} (h : ofName? name = some k) :
    k.name = name := by
  unfold ofName? at h
  split at h
  · rename_i e; cases h; exact e.symm
  · split at h
    · rename_i e; cases h; exact e.symm
    · split at h
      · rename_i e; cases h; exact e.symm
      · split at h
        · rename_i e; cases h; exact e.symm
        · cases h

end Kind

end ClusterEvents.Event
