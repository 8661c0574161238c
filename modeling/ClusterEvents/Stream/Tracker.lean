import ClusterEvents.Stream.Message
import ClusterEvents.Ascending

/-!
# Which offsets may be committed

Messages of a partition are settled in any order, but a commit covers everything
before it. A `Tracker` therefore keeps the offsets of each partition that are in
flight, or settled behind one that is, and tells after each settlement which message
may be committed: the last acknowledged one of the settled offsets at the front.

A partition keeps a limited number of offsets. Beyond that, the lowest offset is given
up on even if it is in flight, so that one lost acknowledgment cannot hold back a
partition forever.

Main definitions: `Pending.release`, which takes the settled front off a partition,
and `Tracker.track`, `Tracker.acknowledge` and `Tracker.skip`.
-/

namespace ClusterEvents

-- The empty sum is the numeral zero, whatever else is imported.
attribute [local instance (high)] Zero.ofOfNat0

/-- What is known of an offset. -/
inductive Slot where
  | inFlight
  | acknowledged
  | skipped
deriving DecidableEq, Repr

/-- What is known of an offset once something was decided about its message. -/
def Ack.slot : Ack → Slot
  | .done _ => .acknowledged
  | .skipped _ => .skipped

/-- The offsets of a partition that cannot be committed yet, in ascending order. -/
abbrev Pending := List (Int × Slot)

namespace Pending

/-- Takes settled offsets off the front, and offsets in flight too while more than
`limit` are left. The result tells the last acknowledged offset among those taken. -/
def release (limit : Nat) : Pending → Option Int × Pending
  | [] => (none, [])
  | (offset, .acknowledged) :: rest =>
    let (later, left) := release limit rest
    (later.or (some offset), left)
  | (_, .skipped) :: rest => release limit rest
  | (offset, .inFlight) :: rest =>
    if limit < rest.length + 1 then release limit rest
    else (none, (offset, .inFlight) :: rest)

/-- How many offsets in flight `release` gives up on. -/
def abandoned (limit : Nat) : Pending → Nat
  | [] => 0
  | (_, .acknowledged) :: rest | (_, .skipped) :: rest => abandoned limit rest
  | (_, .inFlight) :: rest =>
    if limit < rest.length + 1 then abandoned limit rest + 1 else 0

end Pending

/-- The offsets of all partitions that cannot be committed yet. -/
structure Tracker where
  /-- How many offsets a partition may keep. -/
  limit : Nat
  partitions : List (Partition × Pending) := []
deriving DecidableEq, Repr

namespace Tracker

/-- How many offsets a partition may keep unless set otherwise. -/
def defaultLimit : Nat := 100000

/-- A tracker without offsets; the limit counts as one at least. -/
def withLimit (limit : Nat) : Tracker where
  limit := max limit 1

/-- The offsets of a partition. -/
def pending (t : Tracker) (p : Partition) : Pending :=
  (Ascending.get? p t.partitions).getD []

/-- The tracker with other offsets of a partition. -/
def setPending (t : Tracker) (p : Partition) (pending : Pending) : Tracker :=
  { t with partitions := (p, pending) :: Ascending.erase p t.partitions }

/-- A message was fetched and is in flight. -/
def track (t : Tracker) (m : Message) : Tracker :=
  t.setPending m.home (Ascending.put m.offset .inFlight (t.pending m.home))

/-- An offset was settled: the message that may be committed now, if there is one. -/
def settle (t : Tracker) (m : Message) (slot : Slot) : Option Message × Tracker :=
  let (ready, left) := Pending.release t.limit (Ascending.put m.offset slot (t.pending m.home))
  (ready.map (Message.bare m.home), t.setPending m.home left)

/-- How many offsets are given up on when an offset is settled. -/
def abandonedBy (t : Tracker) (m : Message) (slot : Slot) : Nat :=
  Pending.abandoned t.limit (Ascending.put m.offset slot (t.pending m.home))

/-- A message was handled. -/
def acknowledge (t : Tracker) (m : Message) : Option Message × Tracker :=
  t.settle m .acknowledged

/-- A message was dropped on purpose. It never becomes ready for a commit itself. -/
def skip (t : Tracker) (m : Message) : Option Message × Tracker :=
  t.settle m .skipped

/-- How many offsets cannot be committed yet, over all partitions. -/
def inFlight (t : Tracker) : Nat :=
  (t.partitions.map fun entry => entry.2.length).sum

end Tracker

end ClusterEvents
