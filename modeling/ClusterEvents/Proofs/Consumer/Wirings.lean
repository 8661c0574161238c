import ClusterEvents.Program.Run
import ClusterEvents.Proofs.Consumer.Accounts
import ClusterEvents.Proofs.Projection.Dispositions

/-!
# The consumer of a projection

A `Context` is all that a projection meets with besides the message: who helps it, which
month it is, what it leaves behind. The helpers may answer differently each time, and
refuse whatever they like. The consumer that the program runs is one such consumer.
-/

namespace ClusterEvents

namespace Projection

variable {σ : Type}

/-- What a projection meets with when it processes a message in a state. -/
structure Context (σ : Type) where
  month : Message → σ → Calendar.Month
  helpers : Message → σ → Collaborators
  /-- The state after a message has been processed. -/
  keep : Message → Processed → σ → σ
  /-- Whether the reader is asked to stop before the next message. -/
  stop : Message → σ → Bool := fun _ _ => false

/-- What a message comes to in a state. -/
def outcome (p : Projection) (u : Context σ) (x : Message × σ) : Processed :=
  p.process (u.month x.1 x.2) (u.helpers x.1 x.2) x.1

/-- A consumer that processes messages with a projection. -/
def wiring (p : Projection) (u : Context σ) (answers : Nat → Bulk.Answer)
    (refuses : Message → Bool) : Wiring σ ProjectionError where
  process m s :=
    { disposition := (p.outcome u (m, s)).disposition
      state := u.keep m (p.outcome u (m, s)) s
      stop := u.stop m s }
  refuses := refuses
  answers := answers
  unacknowledged := .unacknowledged
  unstored := .store .closed

variable (p : Projection) (u : Context σ) (answers : Nat → Bulk.Answer)
  (refuses : Message → Bool)

theorem disposition_wiring (x : Message × σ) :
    (p.wiring u answers refuses).disposition x = (p.outcome u x).disposition := rfl

theorem isTicketed_wiring : (p.wiring u answers refuses).IsTicketed := by
  intro x item hitem
  rw [disposition_wiring] at hitem
  cases hd : (p.outcome u x).disposition with
  | queued item' =>
      rw [hd] at hitem
      obtain rfl := List.mem_singleton.1 hitem
      exact ticket_of_queued hd
  | _ =>
      rw [hd] at hitem
      cases hitem

/-- Snapshots in memory that never fail, and an indexer that takes everything. -/
def Context.memory : Context SnapshotStore where
  month _ _ := ⟨2024, 1⟩
  helpers _ store := store.collaborators 0
  keep _ outcome store := store.after 0 outcome

/-- A message of one partition. -/
def letter (offset : Int) (text : String) : Message :=
  { topic := "events", partition := 0, offset, value := Bytes.ofString text }

end Projection

namespace Settings

/-- What the projection of the program meets with. -/
def context (s : Settings) (around : Surroundings) (opened : OpenedSnapshots) :
    Projection.Context Progress where
  month _ _ := around.clock.month
  helpers _ progress := opened.collaborators around.clock.millis progress.store
  keep m processed progress :=
    { store := progress.store.after around.clock.millis processed
      records := progress.records ++ s.projection.records
        (opened.collaborators around.clock.millis progress.store).reads m }

/-- The program runs the consumer of a projection. -/
theorem wiring_eq (s : Settings) (around : Surroundings) (opened : OpenedSnapshots) :
    s.wiring around opened =
      s.projection.wiring (s.context around opened) around.answers fun _ => false := rfl

/-- The program starts it with the messages of its source. -/
theorem consumer_eq (s : Settings) (cancelled : Bool) (queue : LocalQueue)
    (store : SnapshotStore) :
    s.consumer cancelled queue store = Consumer.Plan.start {
      log := queue.waiting
      cancelled
      state := { store }
      delivery := s.delivery
      flushBytes := s.store.flushBytes } := rfl

end Settings

end ClusterEvents
