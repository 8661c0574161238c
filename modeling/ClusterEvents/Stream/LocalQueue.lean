import ClusterEvents.Stream.Message
import ClusterEvents.Text.Blank
import ClusterEvents.Text.Cut
import ClusterEvents.Event.Basic

/-!
# Queues in memory

A local queue numbers the messages that are pushed to it from zero on and hands them
out in that order. Once it is closed nothing can be pushed any more, but what is left
is still handed out. Commits are only recorded.

`ofLines` is the queue of a file with one message per line; it is closed from the
beginning.
-/

namespace ClusterEvents

/-- A queue of messages on the first partition of a topic. -/
structure LocalQueue where
  topic : String
  waiting : List Message := []
  committed : List Message := []
  nextOffset : Nat := 0
  closed : Bool := false
deriving DecidableEq, Repr

/-- What a fetch finds. -/
inductive Fetched where
  | message (m : Message) (rest : LocalQueue)
  /-- Nothing is there yet. -/
  | waiting
  /-- Nothing is there, and nothing will come. -/
  | closed

namespace LocalQueue

/-- The topic of queues that are given none. -/
def defaultTopic : String := "local"

/-- Appends a message and tells its offset; a closed queue takes none. -/
def push (q : LocalQueue) (key value : Bytes) : Option (Int × LocalQueue) :=
  if q.closed then none
  else
    let offset : Int := q.nextOffset
    let message : Message := { topic := q.topic, partition := 0, offset, key, value }
    some (offset, { q with waiting := q.waiting ++ [message], nextOffset := q.nextOffset + 1 })

/-- Appends an event, as it is written. -/
def publish (q : LocalQueue) (key : Bytes) (event : Event) : Option (Int × LocalQueue) :=
  q.push key (Bytes.ofString event.encode)

/-- Takes the message that was pushed first. -/
def fetch (q : LocalQueue) : Fetched :=
  match q.waiting with
  | m :: rest => .message m { q with waiting := rest }
  | [] => if q.closed then .closed else .waiting

/-- Records that a message was committed. -/
def commit (q : LocalQueue) (m : Message) : LocalQueue :=
  { q with committed := q.committed ++ [m] }

/-- Nothing can be pushed any more. -/
def close (q : LocalQueue) : LocalQueue :=
  { q with closed := true }

/-- A line without the carriage return before its line feed. -/
def withoutReturn (line : List Char) : List Char :=
  if line.getLast? = some '\r' then line.dropLast else line

/-- The lines of a text. The last one counts only if there is something on it, and only
where a line feed ends the line is a carriage return part of its end. -/
def lines (text : List Char) : List (List Char) :=
  let pieces := Text.splitOn '\n' text
  let last := pieces.getLast?.getD []
  pieces.dropLast.map withoutReturn ++ if last.isEmpty then [] else [last]

/-- The lines of a text that are not blank. -/
def filledLines (text : String) : List String :=
  ((lines text.toList).filter fun line => !line.all Text.isBlank).map String.ofList

/-- The closed queue of the lines of a text that are not blank. -/
def ofLines (topic text : String) : LocalQueue :=
  let filled := filledLines text
  { topic
    waiting := filled.zipIdx.map fun (line, i) =>
      { topic, partition := 0, offset := i, value := Bytes.ofString line }
    nextOffset := filled.length
    closed := true }

end LocalQueue

end ClusterEvents
