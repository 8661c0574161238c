import ClusterEvents.Bulk.Answer
import ClusterEvents.Bulk.Item
import ClusterEvents.Stream.Channel

/-!
# Sending documents in batches

Senders put items into a bounded channel. A worker takes them out, gathers them in a
batch, and sends the batch when it is large enough, when a timer runs out, and when it
is told to close. Every item of a batch is then settled, in order: its sender is told
whether it was stored. While items are being settled the worker takes nothing else.
Once it has closed it is gone, and with it what is still in the channel.

`Indexer.work?`, `Indexer.tick?` and `Indexer.settle?` are the steps of the worker;
each is `none` when it cannot be taken. The store's answers are given as a function of
the number of requests sent before.
-/

namespace ClusterEvents.Bulk

/-- What a sender can ask for. -/
inductive Command (κ : Type) where
  | add (item : Item κ)
  | close

/-- Counts since the beginning. -/
structure Stats where
  /-- Items that were taken from senders. -/
  added : Nat := 0
  /-- Items that were sent. -/
  flushed : Nat := 0
  /-- Items that the store took. -/
  indexed : Nat := 0
  /-- Items that were sent but are not stored. -/
  failed : Nat := 0
  requests : Nat := 0
deriving DecidableEq, Repr

/-- What the sender of an item is told. -/
abbrev Verdict := Except BulkError Unit

/-- The channel with its worker. -/
structure Indexer (κ : Type) where
  /-- A batch of this size is sent at once. -/
  flushBytes : Nat
  commands : Channel (Command κ)
  /-- The batch that is being gathered. -/
  pending : List (Item κ) := []
  /-- What is left to be settled of the batch that was sent last. -/
  settling : List (Item κ × Verdict) := []
  /-- The worker was told to close and stops when everything is settled. -/
  closing : Bool := false
  /-- The bodies of the requests that were sent. -/
  sent : List Bytes := []
  stats : Stats := {}

/-- What becomes of a command. -/
inductive Accepted (κ : Type) where
  | ok (indexer : Indexer κ)
  /-- There is no room now. -/
  | full
  /-- The worker is gone. -/
  | closed

namespace Indexer

variable {κ : Type}

/-- An indexer without items. -/
def new (flushBytes channelBuffer : Nat) : Indexer κ where
  flushBytes := flushBytes
  commands := Channel.withCapacity channelBuffer

/-- Whether the worker is gone. -/
def stopped (x : Indexer κ) : Bool :=
  x.closing && x.settling.isEmpty

/-- Puts a command into the channel. -/
def submit (x : Indexer κ) (command : Command κ) : Accepted κ :=
  match x.commands.send command with
  | .ok commands => .ok { x with commands }
  | .full => .full
  | .closed => .closed

/-- Adds an item. -/
def add (x : Indexer κ) (item : Item κ) : Accepted κ :=
  match x.submit (.add item) with
  | .ok x => .ok { x with stats.added := x.stats.added + 1 }
  | other => other

/-- Asks the worker to send what it has and stop. -/
def close (x : Indexer κ) : Accepted κ :=
  x.submit .close

/-- Whether a verdict is good. -/
def isGood : Verdict → Bool
  | .ok _ => true
  | .error _ => false

/-- Sends the batch, if there is something in it, and learns what becomes of it. -/
def flush (x : Indexer κ) (answers : Nat → Answer) : Indexer κ :=
  if x.pending.isEmpty then x
  else
    let size := x.pending.length
    let verdicts := (answers x.sent.length).verdicts size
    let good := (verdicts.filter isGood).length
    { x with
      pending := []
      settling := x.pending.zip verdicts
      sent := x.sent ++ [body x.pending]
      stats := { x.stats with
        flushed := x.stats.flushed + size
        indexed := x.stats.indexed + good
        failed := x.stats.failed + (size - good)
        requests := x.stats.requests + 1 } }

/-- Takes an item into the batch, and sends the batch if it is large enough. -/
def buffer (x : Indexer κ) (answers : Nat → Answer) (item : Item κ) : Indexer κ :=
  let x := { x with pending := x.pending ++ [item] }
  if x.flushBytes ≤ (body x.pending).length then x.flush answers else x

/-- The worker goes when it was told to close and everything is settled. -/
def leave (x : Indexer κ) : Indexer κ :=
  if x.stopped then { x with commands := x.commands.dropReceiver } else x

/-- Sends what there is and stops. -/
def finish (x : Indexer κ) (answers : Nat → Answer) : Indexer κ :=
  { x.flush answers with closing := true }.leave

/-- Whether the worker waits for commands and for the timer. -/
def isIdle (x : Indexer κ) : Bool :=
  !x.closing && x.settling.isEmpty

/-- The worker takes the next command. That all senders are gone counts as the command
to close. -/
def work? (x : Indexer κ) (answers : Nat → Answer) : Option (Indexer κ) :=
  if x.isIdle then
    match x.commands.receive with
    | .value (.add item) commands => some ({ x with commands }.buffer answers item)
    | .value .close commands => some ({ x with commands }.finish answers)
    | .waiting => none
    | .ended => some (x.finish answers)
  else none

/-- The timer runs out. -/
def tick? (x : Indexer κ) (answers : Nat → Answer) : Option (Indexer κ) :=
  if x.isIdle then some (x.flush answers) else none

/-- The next item is settled: its sender is told what became of it. -/
def settle? (x : Indexer κ) : Option ((Item κ × Verdict) × Indexer κ) :=
  match x.settling with
  | [] => none
  | next :: rest => some (next, { x with settling := rest }.leave)

/-- The worker settles the next item, which is reported, or takes the next command. -/
def step? (x : Indexer κ) (answers : Nat → Answer) :
    Option (Option (Item κ × Verdict) × Indexer κ) :=
  match x.settle? with
  | some (settled, x) => some (some settled, x)
  | none => (x.work? answers).map fun x => (none, x)

/-- The worker goes on as long as it can, at most so many steps. What it settles on the
way is reported in order. -/
def runFor (answers : Nat → Answer) : Nat → Indexer κ → List (Item κ × Verdict) × Indexer κ
  | 0, x => ([], x)
  | fuel + 1, x =>
    match x.step? answers with
    | none => ([], x)
    | some (settled, x) =>
      let (later, x) := runFor answers fuel x
      (settled.toList ++ later, x)

/-- A bound on the steps that the worker takes at a stretch. -/
def stepBound (x : Indexer κ) : Nat :=
  2 * (x.commands.values.length + x.pending.length + x.settling.length) + 2

/-- The worker goes on as long as it can. -/
def run (x : Indexer κ) (answers : Nat → Answer) : List (Item κ × Verdict) × Indexer κ :=
  runFor answers x.stepBound x

/-- The senders are gone. -/
def dropSenders (x : Indexer κ) : Indexer κ :=
  { x with commands := x.commands.dropSenders }

end Indexer

end ClusterEvents.Bulk
