import ClusterEvents.Ascending
import ClusterEvents.Settings.Words

/-!
# Groups of entries in memory

Texts are kept by identifier inside of groups. A group lives as long after its last
write as entries are kept; after that it is as if it had never been written.

All operations take the time in milliseconds.
-/

namespace ClusterEvents

/-- A group: when it was last written, and its texts in ascending order of
identifiers. -/
structure MemoryGroup where
  writtenAt : Int
  entries : List (String × String)
deriving DecidableEq, Repr

/-- Groups in memory, and how long they are kept. -/
structure MemoryStore where
  expiration : Duration
  groups : List (String × MemoryGroup) := []
deriving DecidableEq, Repr

namespace MemoryStore

/-- Whether a group still lives. -/
def isAlive (s : MemoryStore) (now : Int) (g : MemoryGroup) : Bool :=
  decide (now < g.writtenAt + s.expiration.millis)

/-- The texts of a group in ascending order of identifiers. -/
def getAll (s : MemoryStore) (now : Int) (group : String) : List (String × String) :=
  match Ascending.get? group s.groups with
  | some g => if s.isAlive now g then g.entries else []
  | none => []

/-- The text of an identifier in a group. -/
def get? (s : MemoryStore) (now : Int) (group id : String) : Option String :=
  Ascending.get? id (s.getAll now group)

/-- Puts a text into a group, which from now on lives for the full time again. -/
def put (s : MemoryStore) (now : Int) (group id text : String) : MemoryStore :=
  let entries := Ascending.put id text (s.getAll now group)
  { s with groups := Ascending.put group ⟨now, entries⟩ s.groups }

/-- How many groups still live. -/
def liveGroups (s : MemoryStore) (now : Int) : Nat :=
  (s.groups.filter fun entry => s.isAlive now entry.2).length

end MemoryStore

end ClusterEvents
