import ClusterEvents.Proofs.Tracker.History

/-!
# Partitions do not interfere

Of a tracker, a call sees the limit and the offsets of its own partition. Trackers that agree on
these give it the same answer and still agree afterwards, and a call about another partition
changes nothing of it. So all calls about other partitions may be left out or put in elsewhere:
the answers about a partition stay as they are (`answersAt_eq`), and so do its offsets
(`AgreeOn.after`). The offsets in flight are those of the partitions, each tracked by itself.

Partitions of the same number in two topics are two partitions like any others.
-/

namespace ClusterEvents.Tracker

/-- The calls about a partition. -/
def about (p : Partition) (calls : List Call) : List Call :=
  calls.filter fun c => c.home = p

/-- What the calls about a partition are answered, in order. -/
def answersAt (t : Tracker) (p : Partition) : List Call → List (Option Message)
  | [] => []
  | c :: calls =>
    if c.home = p then (t.answer c).1 :: (t.answer c).2.answersAt p calls
    else (t.answer c).2.answersAt p calls

/-- Two trackers cannot be told apart by calls about a partition. -/
structure AgreeOn (p : Partition) (t t' : Tracker) : Prop where
  limit : t.limit = t'.limit
  pending : t.pending p = t'.pending p

variable {t t' : Tracker} {p q : Partition} {c : Call} {calls : List Call}

theorem about_cons_of_eq (h : c.home = p) (calls : List Call) :
    about p (c :: calls) = c :: about p calls :=
  List.filter_cons_of_pos (by simpa using h)

theorem about_cons_of_ne (h : c.home ≠ p) (calls : List Call) :
    about p (c :: calls) = about p calls :=
  List.filter_cons_of_neg (by simpa using h)

theorem home_of_mem_about (h : c ∈ about p calls) : c.home = p := by
  simpa using (List.mem_filter.1 h).2

theorem after_cons (t : Tracker) (c : Call) (calls : List Call) :
    t.after (c :: calls) = (t.answer c).2.after calls := rfl

/-! ## One call -/

theorem AgreeOn.released (h : AgreeOn c.home t t') (slot : Slot) :
    t.released c.message slot = t'.released c.message slot := by
  have hpending : t.pending c.message.home = t'.pending c.message.home := h.pending
  rw [Tracker.released, Tracker.released, h.limit, hpending]

theorem AgreeOn.answer_eq (h : AgreeOn c.home t t') : (t.answer c).1 = (t'.answer c).1 := by
  cases hc : c.slot? with
  | none => cases c <;> first | rfl | cases hc
  | some slot =>
      rw [answer_of_slot? hc, answer_of_slot? hc, settle_eq, settle_eq, h.released slot]

theorem AgreeOn.answer (h : AgreeOn c.home t t') :
    AgreeOn c.home (t.answer c).2 (t'.answer c).2 where
  limit := by rw [limit_answer, limit_answer, h.limit]
  pending := by
    cases hc : c.slot? with
    | none => rw [pending_answer_of_track t hc, pending_answer_of_track t' hc, h.pending]
    | some slot =>
        rw [pending_answer_of_settle t hc, pending_answer_of_settle t' hc, h.released slot]

/-- A call about another partition may be left out. -/
theorem AgreeOn.answer_left (h : AgreeOn p t t') (hc : c.home ≠ p) :
    AgreeOn p (t.answer c).2 t' where
  limit := (limit_answer t c).trans h.limit
  pending := (pending_answer_of_ne t (Ne.symm hc)).trans h.pending

/-! ## All calls -/

/-- The answers about a partition are those that the calls about it get by themselves. -/
theorem AgreeOn.answersAt_about (h : AgreeOn p t t') (calls : List Call) :
    t.answersAt p calls = t'.answersAt p (about p calls) := by
  induction calls generalizing t t' with
  | nil => rfl
  | cons c calls ih =>
      by_cases hc : c.home = p
      · subst hc
        rw [about_cons_of_eq rfl, answersAt, answersAt, if_pos rfl, if_pos rfl, h.answer_eq,
          ih h.answer]
      · rw [about_cons_of_ne hc, answersAt, if_neg hc, ih (h.answer_left hc)]

/-- The calls about other partitions make no difference to a partition. -/
theorem AgreeOn.after (h : AgreeOn p t t') (calls : List Call) :
    AgreeOn p (t.after calls) (t'.after (about p calls)) := by
  induction calls generalizing t t' with
  | nil => exact h
  | cons c calls ih =>
      rw [after_cons]
      by_cases hc : c.home = p
      · subst hc
        rw [about_cons_of_eq rfl, after_cons]
        exact ih h.answer
      · rw [about_cons_of_ne hc]
        exact ih (h.answer_left hc)

theorem agreeOn_refl (p : Partition) (t : Tracker) : AgreeOn p t t :=
  ⟨rfl, rfl⟩

/-- Histories with the same calls about a partition have the same answers about it. -/
theorem answersAt_eq {calls' : List Call} (h : about p calls = about p calls') (t : Tracker) :
    t.answersAt p calls = t.answersAt p calls' := by
  rw [(agreeOn_refl p t).answersAt_about calls, (agreeOn_refl p t).answersAt_about calls', h]

theorem about_eq_nil (h : ∀ c ∈ calls, c.home ≠ p) : about p calls = [] :=
  List.filter_eq_nil_iff.2 fun c hc => by simpa using h c hc

theorem pending_after_of_forall_ne (limit : Nat) (h : ∀ c ∈ calls, c.home ≠ p) :
    ((withLimit limit).after calls).pending p = [] := by
  have hagree := (agreeOn_refl p (withLimit limit)).after calls
  rw [about_eq_nil h] at hagree
  exact hagree.pending

/-- Tracked by itself, a partition has in flight what it has in flight among others. -/
theorem inFlight_after_about (limit : Nat) (p : Partition) (calls : List Call) :
    ((withLimit limit).after (about p calls)).inFlight =
      (((withLimit limit).after calls).pending p).length := by
  have hother : ∀ q ∉ ({p} : Finset Partition),
      ((withLimit limit).after (about p calls)).pending q = [] := by
    intro q hq
    refine pending_after_of_forall_ne limit fun c hc hhome => hq ?_
    rw [Finset.mem_singleton, ← hhome, home_of_mem_about hc]
  rw [inFlight_eq_sum (isKeyed_after limit _) hother, Finset.sum_singleton,
    ((agreeOn_refl p (withLimit limit)).after calls).pending]

/-- Partitions do not interfere. Of two histories, with whatever calls about other partitions in
between, the answers about a partition are the same if the calls about it are; and what is in
flight after a history is what its partitions have in flight, each after its own calls alone. -/
theorem partitions_independent (limit : Nat) :
    (∀ p calls calls', about p calls = about p calls' →
      (withLimit limit).answersAt p calls = (withLimit limit).answersAt p calls') ∧
    ∀ (calls : List Call) (P : Finset Partition), (∀ c ∈ calls, c.home ∈ P) →
      ((withLimit limit).after calls).inFlight =
        ∑ p ∈ P, ((withLimit limit).after (about p calls)).inFlight := by
  refine ⟨fun p calls calls' h => answersAt_eq h _, fun calls P hP => ?_⟩
  have houtside : ∀ p ∉ P, ((withLimit limit).after calls).pending p = [] := fun p hp =>
    pending_after_of_forall_ne limit fun c hc hhome => hp (hhome ▸ hP c hc)
  rw [inFlight_eq_sum (isKeyed_after limit calls) houtside]
  exact Finset.sum_congr rfl fun p _ => (inFlight_after_about limit p calls).symm

/-- A message of one of two topics, on the partition with the number 0. -/
def onTopic (topic : String) (o : Int) : Message :=
  .bare ⟨topic, 0⟩ o

/-- The acknowledgment of an offset that stands behind one in flight. -/
def overtaking : List Call :=
  [.track (onTopic "events" 1), .track (onTopic "events" 2), .acknowledge (onTopic "events" 2)]

/-- The same among calls about the same offsets of another topic. -/
def overtakingAmongOthers : List Call :=
  [.track (onTopic "audit" 1), .track (onTopic "events" 1), .acknowledge (onTopic "audit" 2),
    .track (onTopic "audit" 2), .track (onTopic "events" 2), .track (onTopic "audit" 3),
    .acknowledge (onTopic "events" 2)]

theorem partitions_independent_of_same_number :
    (about ⟨"events", 0⟩ overtaking = about ⟨"events", 0⟩ overtakingAmongOthers ∧
      (withLimit 1).answersAt ⟨"events", 0⟩ overtaking =
        (withLimit 1).answersAt ⟨"events", 0⟩ overtakingAmongOthers ∧
      (withLimit 1).answersAt ⟨"events", 0⟩ overtaking =
        [none, none, some (onTopic "events" 2)]) ∧
    (∀ c ∈ overtakingAmongOthers,
      c.home ∈ ({⟨"events", 0⟩, ⟨"audit", 0⟩} : Finset Partition)) ∧
    ((withLimit 1).after overtakingAmongOthers).inFlight =
      ∑ p ∈ ({⟨"events", 0⟩, ⟨"audit", 0⟩} : Finset Partition),
        ((withLimit 1).after (about p overtakingAmongOthers)).inFlight := by
  have hsame : about ⟨"events", 0⟩ overtaking = about ⟨"events", 0⟩ overtakingAmongOthers := by
    decide
  have hhomes : ∀ c ∈ overtakingAmongOthers,
      c.home ∈ ({⟨"events", 0⟩, ⟨"audit", 0⟩} : Finset Partition) := by
    decide
  obtain ⟨hanswers, hsum⟩ := partitions_independent 1
  exact ⟨⟨hsame, hanswers _ _ _ hsame, by decide⟩, hhomes, hsum _ _ hhomes⟩

end ClusterEvents.Tracker
