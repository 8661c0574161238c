import ClusterEvents.Text.Glyph

/-!
# Messages

A message has a position on the stream: a topic, a partition of it, and an offset that
grows along the partition. It stays around until its position is committed. An `Ack`
says what was decided about it.
-/

namespace ClusterEvents

/-- A part of a topic whose messages have an order. -/
structure Partition where
  topic : String
  number : Int
deriving DecidableEq, Repr

/-- Where a message stands on the stream. -/
structure Position where
  topic : String
  partition : Int
  offset : Int
deriving DecidableEq, Repr

/-- A message of the stream. -/
structure Message where
  topic : String
  partition : Int
  offset : Int
  key : Bytes := []
  value : Bytes := []
  headers : List (String × Bytes) := []
deriving DecidableEq, Repr

namespace Message

/-- The partition that a message is on. -/
def home (m : Message) : Partition :=
  ⟨m.topic, m.partition⟩

/-- The position of a message. -/
def position (m : Message) : Position :=
  ⟨m.topic, m.partition, m.offset⟩

/-- A message at an offset of a partition with nothing in it: all that a commit
needs. -/
def bare (p : Partition) (offset : Int) : Message where
  topic := p.topic
  partition := p.number
  offset := offset

/-- The first header of a name. -/
def header? (m : Message) (name : String) : Option Bytes :=
  m.headers.lookup name

end Message

/-- What was decided about a message. -/
inductive Ack where
  /-- It was handled and may be committed. -/
  | done (m : Message)
  /-- It was dropped on purpose. It is not committed, but no longer holds back later
  messages of its partition. -/
  | skipped (m : Message)
deriving DecidableEq, Repr

namespace Ack

/-- The message that was decided about. -/
def message : Ack → Message
  | .done m => m
  | .skipped m => m

end Ack

end ClusterEvents
