import ClusterEvents.Projection.Routing
import ClusterEvents.Enriched.Index
import ClusterEvents.Bulk.Indexer

/-!
# What becomes of a message

A decision is carried out with the help of others: a state is written to the
snapshots, a document is handed to the indexer. Either may refuse. What is left then
is the disposition of the message, which says who acknowledges it, and whether the
work has to stop.
-/

namespace ClusterEvents

/-- What becomes of a message once it has been processed. -/
inductive Disposition (ε : Type) where
  /-- It is handled; it is acknowledged at once. -/
  | done
  /-- It was dropped on purpose; this is reported at once. -/
  | skipped
  /-- Somebody else reports on it later. -/
  | held
  /-- Its document is handed to the indexer, and it is acknowledged once that is
  stored. -/
  | queued (item : Bulk.Item Message)
  /-- It cannot be handled, and the work stops. -/
  | failed (e : ε)

/-- Why a message cannot be handled. -/
inductive ProjectionError where
  | unknownEvent (name : String)
  | snapshot (e : SnapshotError)
  | store (e : BulkError)
  /-- Nobody takes acknowledgments any more. -/
  | unacknowledged
deriving DecidableEq, Repr

namespace ProjectionError

/-- The error in words. -/
def message : ProjectionError → String
  | .unknownEvent name => s!"unknown event name {Text.quote name}"
  | .snapshot e => s!"snapshot update failed: {e.message}"
  | .store e => s!"failed to store enriched event: {e.message}"
  | .unacknowledged => "failed to acknowledge message: acknowledgment channel closed"

/-- What caused the error, from the outside in, each in words. -/
def causes : ProjectionError → List String
  | .unknownEvent _ => []
  | .snapshot e => e.message :: e.causes
  | .store e => [e.message]
  | .unacknowledged => ["acknowledgment channel closed"]

end ProjectionError

/-- Those who help carrying out decisions. -/
structure Collaborators where
  /-- What a look at the snapshots of a cluster gives. -/
  reads : String → Reads
  /-- Whether a state can be written. -/
  write : StateChange → Except SnapshotError Unit
  /-- Whether the indexer takes an item. -/
  add : Bulk.Item Message → Except BulkError Unit

/-- A message after it has been processed. -/
structure Processed where
  disposition : Disposition ProjectionError
  /-- The calls to the snapshots, in order. -/
  calls : List SnapshotCall
  /-- The state that was written. -/
  written : Option StateChange

namespace Projection

/-- The item that stores a document for a message. -/
def item (p : Projection) (month : Calendar.Month) (document : EnrichedEvent) (m : Message) :
    Bulk.Item Message where
  index := EnrichedEvent.indexName p.indexPrefix document.eventTime month
  id := document.id
  body := Bytes.ofString document.encode
  ticket := m

/-- Carries out a decision about a message. -/
def carryOut (p : Projection) (month : Calendar.Month) (c : Collaborators) (m : Message)
    (d : Decision) : Processed :=
  let outcome (disposition : Disposition ProjectionError) (written : Option StateChange) :
      Processed := ⟨disposition, d.calls, written⟩
  match d with
  | .discard => outcome .done none
  | .refuse name => outcome (.failed (.unknownEvent name)) none
  | .skip _ => outcome .skipped none
  | .update change =>
    match c.write change with
    | .ok _ => outcome .done (some change)
    | .error e => outcome (.failed (.snapshot e)) none
  | .store _ document =>
    let item := p.item month document m
    match c.add item with
    | .ok _ => outcome (.queued item) none
    | .error e => outcome (.failed (.store e)) none

/-- Processes a message. -/
def process (p : Projection) (month : Calendar.Month) (c : Collaborators) (m : Message) :
    Processed :=
  p.carryOut month c m (p.decideBytes c.reads m.value)

/-- Processes an event that came with a message. -/
def processEvent (p : Projection) (month : Calendar.Month) (c : Collaborators) (e : Event)
    (m : Message) : Processed :=
  p.carryOut month c m (p.decide c.reads e)

end Projection

/-- Snapshots that always fail, and an indexer that takes everything. -/
def Collaborators.failing (e : SnapshotError) : Collaborators where
  reads := fun _ => ⟨.error e, .error e, .error e⟩
  write := fun _ => .error e
  add := fun _ => .ok ()

namespace SnapshotStore

/-- A store that never fails, and an indexer that takes everything. -/
def collaborators (now : Int) (s : SnapshotStore) : Collaborators where
  reads := s.reads now
  write := fun _ => .ok ()
  add := fun _ => .ok ()

/-- The store after a message has been processed. -/
def after (now : Int) (s : SnapshotStore) (processed : Processed) : SnapshotStore :=
  match processed.written with
  | some change => s.write now change
  | none => s

end SnapshotStore

end ClusterEvents
