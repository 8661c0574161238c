import ClusterEvents.Ascending
import ClusterEvents.Settings.Words

/-!
# Groups of entries in tables

The durable form of groups: a table of rows, each a text under its group and
identifier, and a table that says when each group expires. An expired group is deleted
when it is next looked at, or by `purge`.

Times are milliseconds in signed numbers of sixty-four bits. How long entries are kept
is brought into that range by wrapping around; the time of expiry, a sum, stops at the
ends of the range.
-/

namespace ClusterEvents

-- Powers are those that numbers bring along, whatever else is imported.
attribute [local instance (high)] instPowNat instNatPowNat Int.instNatPow

/-- A text under its group and identifier. -/
structure SnapshotRow where
  group : String
  id : String
  text : String
deriving DecidableEq, Repr

/-- The two tables. -/
structure DurableStore where
  /-- When each group expires. -/
  expiries : List (String × Int) := []
  rows : List SnapshotRow := []
deriving DecidableEq, Repr

namespace DurableStore

/-- The number of sixty-four bits, with a sign, that a number wraps around to. -/
def wrapped (n : Int) : Int :=
  n.bmod (2 ^ (64 : Nat))

/-- A number of sixty-four bits, with a sign, as near as possible to a given one. -/
def clamped (n : Int) : Int :=
  max (-(2 ^ (63 : Nat))) (min n (2 ^ (63 : Nat) - 1))

/-- When a group expires that is written now. -/
def expiry (now : Int) (expiration : Duration) : Int :=
  clamped (now + wrapped expiration.millis)

/-- Whether a group is there and its time is up. -/
def isExpired (s : DurableStore) (now : Int) (group : String) : Bool :=
  (Ascending.get? group s.expiries).any fun time => decide (time ≤ now)

/-- Deletes a group. -/
def deleteGroup (s : DurableStore) (group : String) : DurableStore where
  expiries := Ascending.erase group s.expiries
  rows := s.rows.filter fun row => row.group ≠ group

/-- Deletes a group if it is expired, as every look at it does first. -/
def settled (s : DurableStore) (now : Int) (group : String) : DurableStore :=
  if s.isExpired now group then s.deleteGroup group else s

/-- Whether there is no group of a name. -/
def isAbsent (s : DurableStore) (group : String) : Bool :=
  (Ascending.get? group s.expiries).isNone

/-- The rows with a text under a group and an identifier, in place of the one that was
there. -/
def putRow (row : SnapshotRow) : List SnapshotRow → List SnapshotRow
  | [] => [row]
  | other :: rest =>
    if other.group = row.group ∧ other.id = row.id then row :: rest
    else other :: putRow row rest

/-- Puts a text into a group and renews the time of its expiry. -/
def put (s : DurableStore) (now : Int) (expiration : Duration) (group id text : String) :
    DurableStore :=
  let s := s.settled now group
  { expiries := Ascending.put group (expiry now expiration) s.expiries
    rows := putRow ⟨group, id, text⟩ s.rows }

/-- The text of an identifier in a group, if the group is there. -/
def get? (s : DurableStore) (now : Int) (group id : String) : Option String × DurableStore :=
  let s := s.settled now group
  if s.isAbsent group then (none, s)
  else
    let row := s.rows.find? fun row => row.group = group ∧ row.id = id
    (row.map (·.text), s)

/-- The texts of a group in ascending order of identifiers, if the group is there. -/
def getAll (s : DurableStore) (now : Int) (group : String) :
    List (String × String) × DurableStore :=
  let s := s.settled now group
  if s.isAbsent group then ([], s)
  else
    let rows := s.rows.filter fun row => row.group = group
    (rows.foldl (fun entries row => Ascending.put row.id row.text entries) [], s)

/-- Deletes all expired groups, and tells how many there were. -/
def purge (s : DurableStore) (now : Int) : Nat × DurableStore :=
  let expired := (s.expiries.filter fun entry => entry.2 ≤ now).map Prod.fst
  (expired.length,
    { expiries := s.expiries.filter fun entry => ¬ entry.2 ≤ now
      rows := s.rows.filter fun row => row.group ∉ expired })

end DurableStore

end ClusterEvents
