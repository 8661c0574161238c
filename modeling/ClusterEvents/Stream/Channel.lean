import ClusterEvents.Stream.Message

/-!
# Bounded channels

A channel holds a bounded number of values between those who send and the one who
receives, and hands them over in the order in which they were sent. It always has
room for at least one.
-/

namespace ClusterEvents

/-- Values on their way from senders to a receiver. -/
structure Channel (α : Type) where
  capacity : Nat
  values : List α := []
  /-- All senders are gone. -/
  sendersGone : Bool := false
  /-- The receiver is gone. -/
  receiverGone : Bool := false

/-- What becomes of a value that is sent. -/
inductive Sent (α : Type) where
  | ok (channel : Channel α)
  /-- There is no room now. -/
  | full
  /-- Nobody will receive it. -/
  | closed

/-- What a receiver finds. -/
inductive Received (α : Type) where
  | value (v : α) (rest : Channel α)
  /-- Nothing is there yet. -/
  | waiting
  /-- Nothing is there, and nobody will send any more. -/
  | ended

namespace Channel

variable {α : Type}

/-- The capacity that is asked for counts as one at least. -/
def withCapacity (capacity : Nat) : Channel α where
  capacity := max capacity 1

/-- Whether another value fits in. -/
def hasRoom (c : Channel α) : Bool :=
  decide (c.values.length < c.capacity)

/-- Sends a value, unless it would have to wait. -/
def send (c : Channel α) (v : α) : Sent α :=
  if c.receiverGone then .closed
  else if c.hasRoom then .ok { c with values := c.values ++ [v] }
  else .full

/-- Takes the value that was sent first. -/
def receive (c : Channel α) : Received α :=
  match c.values with
  | v :: rest => .value v { c with values := rest }
  | [] => if c.sendersGone then .ended else .waiting

/-- The senders go; what they sent stays. -/
def dropSenders (c : Channel α) : Channel α :=
  { c with sendersGone := true }

/-- The receiver goes, and with it what was not received. -/
def dropReceiver (c : Channel α) : Channel α :=
  { c with values := [], receiverGone := true }

end Channel

/-- How many acknowledgments wait for their commits at most, unless set otherwise. -/
def defaultAckBuffer : Nat := 1000

end ClusterEvents
