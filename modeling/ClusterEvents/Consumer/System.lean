import ClusterEvents.Projection.Process
import ClusterEvents.Stream.Tracker

/-!
# The consumer at work

Three parties work side by side. The reader fetches messages, has them processed, and
passes on what comes of it. The worker of the indexer sends documents and acknowledges
the messages of those that were stored. The commit loop turns acknowledgments into
commits. Between them there are two bounded channels, one for acknowledgments and one
for documents; whoever finds a channel full waits.

When the source ends or a message cannot be handled, the reader stops. It has the
indexer send what is left, waits until that is settled, and then tells the commit loop
to stop, which first commits what is still in its channel.

A `Consumer` is a state of this system. Each `Move` is one step of one party, and
`step?` is `none` when that party cannot move now. A run is a list of moves.

How a message is processed is left open: it may read and change a state of type `σ`,
and fail with an `ε`.
-/

namespace ClusterEvents

/-- Why the reader stopped before the end of its source. -/
inductive RunError (ε : Type) where
  /-- The source failed. -/
  | source (reason : String)
  /-- A message cannot be handled. -/
  | process (e : ε)
deriving DecidableEq, Repr

/-- How the reader ended: how many messages were processed, or why it stopped. -/
abbrev RunResult (ε : Type) := Except (RunError ε) Nat

/-- Where the reader is. -/
inductive Phase (ε : Type) where
  /-- It is about to fetch a message. -/
  | fetching
  /-- It has an acknowledgment to pass on. -/
  | acknowledging (ack : Ack)
  /-- It has a document to pass on. -/
  | storing (item : Bulk.Item Message)
  /-- It is done and about to close the indexer. -/
  | ended (result : RunResult ε)
  /-- It waits for the indexer to settle what is left. -/
  | draining (result : RunResult ε)
  /-- It has told the commit loop to stop. -/
  | stopping (result : RunResult ε)

namespace Phase

/-- How the reader ended, once it has. -/
def result? {ε : Type} : Phase ε → Option (RunResult ε)
  | .ended r | .draining r | .stopping r => some r
  | _ => none

end Phase

/-- A message after it has been processed, with the state after it. -/
structure StepOutcome (σ ε : Type) where
  disposition : Disposition ε
  state : σ
  /-- The reader is to stop before the next message. -/
  stop : Bool := false

/-- What the consumer works with. -/
structure Wiring (σ ε : Type) where
  process : Message → σ → StepOutcome σ ε
  /-- Messages whose commit the source refuses. -/
  refuses : Message → Bool := fun _ => false
  /-- What the store answers, by the number of requests before. -/
  answers : Nat → Bulk.Answer
  /-- What it means that nobody takes acknowledgments any more. -/
  unacknowledged : ε
  /-- What it means that nobody takes documents any more. -/
  unstored : ε

/-- An attempt to commit a message. -/
structure Commit where
  message : Message
  accepted : Bool
deriving DecidableEq, Repr

/-- The consumer in the middle of its work. -/
structure Consumer (σ ε : Type) where
  /-- The messages that the source still has. -/
  unfetched : List Message
  /-- Why the source fails after its last message, if it does not just end. -/
  failure : Option String := none
  /-- The reader was asked to stop. -/
  cancelled : Bool := false
  state : σ
  phase : Phase ε := .fetching
  /-- How many messages were processed. -/
  processed : Nat := 0
  /-- What may be committed, if commits keep the order of the stream. -/
  tracker : Option Tracker := none
  acks : Channel Ack
  indexer : Bulk.Indexer Message
  commits : List Commit := []
  /-- How many offsets the tracker has given up on. -/
  abandoned : Nat := 0

/-- A step of one party. -/
inductive Move where
  /-- The reader goes on. -/
  | read
  /-- The worker of the indexer goes on. -/
  | work
  /-- The timer of the indexer runs out. -/
  | tick
  /-- The commit loop goes on. -/
  | commit
deriving DecidableEq, Repr

namespace Consumer

variable {σ ε : Type}

/-- The reader is done with a message. -/
def passedOn (s : Consumer σ ε) : Consumer σ ε :=
  { s with phase := .fetching, processed := s.processed + 1 }

/-- The reader processes a message. -/
def handle (w : Wiring σ ε) (s : Consumer σ ε) (m : Message) : Consumer σ ε :=
  let outcome := w.process m s.state
  let s := { s with
    tracker := s.tracker.map fun (t : Tracker) => t.track m
    state := outcome.state
    cancelled := s.cancelled || outcome.stop }
  match outcome.disposition with
  | .done => { s with phase := .acknowledging (.done m) }
  | .skipped => { s with phase := .acknowledging (.skipped m) }
  | .held => s.passedOn
  | .queued item => { s with phase := .storing item }
  | .failed e => { s with phase := .ended (.error (.process e)) }

/-- The reader fetches the next message, if there is one and nobody asked it to
stop. -/
def fetch (w : Wiring σ ε) (s : Consumer σ ε) : Consumer σ ε :=
  if s.cancelled then { s with phase := .ended (.ok s.processed) }
  else match s.unfetched with
    | m :: rest => { s with unfetched := rest }.handle w m
    | [] =>
      match s.failure with
      | some reason => { s with phase := .ended (.error (.source reason)) }
      | none => { s with phase := .ended (.ok s.processed) }

/-- The reader goes on. -/
def read? (w : Wiring σ ε) (s : Consumer σ ε) : Option (Consumer σ ε) :=
  match s.phase with
  | .fetching => some (s.fetch w)
  | .acknowledging ack =>
    match s.acks.send ack with
    | .ok acks => some { s with acks }.passedOn
    | .full => none
    | .closed => some { s with phase := .ended (.error (.process w.unacknowledged)) }
  | .storing item =>
    match s.indexer.add item with
    | .ok indexer => some { s with indexer }.passedOn
    | .full => none
    | .closed => some { s with phase := .ended (.error (.process w.unstored)) }
  | .ended r =>
    match s.indexer.close with
    | .ok indexer => some { s with indexer, phase := .draining r }
    | .full => none
    | .closed => some { s with phase := .stopping r }
  | .draining r => if s.indexer.stopped then some { s with phase := .stopping r } else none
  | .stopping _ => none

/-- The worker of the indexer goes on: it settles the next item, or takes the next
command. The message of an item that is stored is acknowledged, unless nobody takes
acknowledgments any more. -/
def work? (w : Wiring σ ε) (s : Consumer σ ε) : Option (Consumer σ ε) :=
  match s.indexer.settle? with
  | none => (s.indexer.work? w.answers).map fun indexer => { s with indexer }
  | some ((_, .error _), indexer) => some { s with indexer }
  | some ((item, .ok _), indexer) =>
    match s.acks.send (.done item.ticket) with
    | .ok acks => some { s with indexer, acks }
    | .full => none
    | .closed => some { s with indexer }

/-- The timer of the indexer runs out. -/
def tick? (w : Wiring σ ε) (s : Consumer σ ε) : Option (Consumer σ ε) :=
  (s.indexer.tick? w.answers).map fun indexer => { s with indexer }

/-- Commits a message. -/
def commitMessage (w : Wiring σ ε) (s : Consumer σ ε) (m : Message) : Consumer σ ε :=
  { s with commits := s.commits ++ [⟨m, !w.refuses m⟩] }

/-- Turns an acknowledgment into a commit: of its own message, or of the one that may be
committed now if commits keep the order of the stream. -/
def settle (w : Wiring σ ε) (s : Consumer σ ε) (ack : Ack) : Consumer σ ε :=
  match s.tracker with
  | none =>
    match ack with
    | .done m => s.commitMessage w m
    | .skipped _ => s
  | some tracker =>
    let lost := tracker.abandonedBy ack.message ack.slot
    let (ready, tracker) := tracker.settle ack.message ack.slot
    let s := { s with tracker := some tracker, abandoned := s.abandoned + lost }
    match ready with
    | some m => s.commitMessage w m
    | none => s

/-- Whether the commit loop was told to stop. -/
def isStopping (s : Consumer σ ε) : Bool :=
  match s.phase with
  | .stopping _ => true
  | _ => false

/-- Whether the commit loop has stopped. -/
def isFinished (s : Consumer σ ε) : Bool :=
  s.isStopping && s.acks.receiverGone

/-- The commit loop goes on. It stops when it was told to and nothing is left. -/
def commit? (w : Wiring σ ε) (s : Consumer σ ε) : Option (Consumer σ ε) :=
  match s.acks.receive with
  | .value ack acks => some ({ s with acks }.settle w ack)
  | .waiting | .ended =>
    if s.isStopping && !s.acks.receiverGone then some { s with acks := s.acks.dropReceiver }
    else none

/-- The state after a move, if it can be made. -/
def step? (w : Wiring σ ε) : Move → Consumer σ ε → Option (Consumer σ ε)
  | .read => read? w
  | .work => work? w
  | .tick => tick? w
  | .commit => commit? w

/-- The state after a list of moves, if they can all be made. -/
def run? (w : Wiring σ ε) : List Move → Consumer σ ε → Option (Consumer σ ε)
  | [], s => some s
  | move :: moves, s => (s.step? w move).bind (run? w moves)

end Consumer

end ClusterEvents
