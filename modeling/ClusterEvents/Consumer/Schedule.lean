import ClusterEvents.Consumer.System

/-!
# A schedule

The parties take turns, and each goes on as long as it can: the reader, then the
worker, then the commit loop. This is one run among many. The timer never runs out in
it, since nothing here takes time.
-/

namespace ClusterEvents.Consumer

variable {σ ε : Type}

/-- Goes on as long as there is a step, at most so often. -/
def exhaust {α : Type} (step? : α → Option α) : Nat → α → α
  | 0, s => s
  | fuel + 1, s =>
    match step? s with
    | some s => exhaust step? fuel s
    | none => s

/-- A bound on the steps that the reader takes at a stretch. -/
def readerBound (s : Consumer σ ε) : Nat :=
  2 * s.unfetched.length + 4

/-- The worker goes on as long as it can. -/
def settleDocuments (w : Wiring σ ε) (s : Consumer σ ε) : Consumer σ ε :=
  exhaust (work? w) s.indexer.stepBound s

/-- The commit loop goes on as long as it can. -/
def settleCommits (w : Wiring σ ε) (s : Consumer σ ε) : Consumer σ ε :=
  exhaust (commit? w) (s.acks.values.length + 1) s

/-- One turn of every party; `read?` is how the reader goes on. -/
def turn (w : Wiring σ ε) (read? : Consumer σ ε → Option (Consumer σ ε))
    (s : Consumer σ ε) : Consumer σ ε :=
  let s := exhaust read? s.readerBound s
  (s.settleDocuments w).settleCommits w

/-- Turns until a goal is reached, at most so many. -/
def turns (w : Wiring σ ε) (read? : Consumer σ ε → Option (Consumer σ ε))
    (goal : Consumer σ ε → Bool) : Nat → Consumer σ ε → Consumer σ ε
  | 0, s => s
  | fuel + 1, s => if goal s then s else turns w read? goal fuel (s.turn w read?)

/-- A bound on the turns that a run takes. -/
def turnBound (s : Consumer σ ε) : Nat :=
  4 * (s.unfetched.length + s.acks.values.length + s.indexer.commands.values.length
    + s.indexer.pending.length + s.indexer.settling.length) + 16

/-- The reader goes on, but does not close the indexer. -/
def readOn? (w : Wiring σ ε) (s : Consumer σ ε) : Option (Consumer σ ε) :=
  if s.phase.result?.isSome then none else s.read? w

/-- The consumer when the reader has come to its end. -/
def consume (w : Wiring σ ε) (s : Consumer σ ε) : Consumer σ ε :=
  turns w (readOn? w) (fun s => s.phase.result?.isSome) s.turnBound s

/-- The consumer when everything has come to its end. -/
def finish (w : Wiring σ ε) (s : Consumer σ ε) : Consumer σ ε :=
  turns w (read? w) isFinished s.turnBound s

/-- Takes an acknowledgment from elsewhere; if there is no room for it, the commit loop
goes first. -/
def take (w : Wiring σ ε) (ack : Ack) (s : Consumer σ ε) : Consumer σ ε :=
  match s.acks.send ack with
  | .ok acks => { s with acks }
  | .closed => s
  | .full =>
    let s := s.settleCommits w
    match s.acks.send ack with
    | .ok acks => { s with acks }
    | .full | .closed => s

/-- The consumer when everything has come to its end, after acknowledgments that came
late. -/
def finishAfter (w : Wiring σ ε) (late : List Ack) (s : Consumer σ ε) : Consumer σ ε :=
  (late.foldl (fun s ack => take w ack s) s).finish w

/-- How many commits the source accepted. -/
def accepted (s : Consumer σ ε) : Nat :=
  (s.commits.filter (·.accepted)).length

end ClusterEvents.Consumer
