import ClusterEvents.Proofs.Tracker.History
import Mathlib.Data.List.TakeWhile

/-!
# Offsets in flight

An offset is in flight from when it is tracked until it is settled. As long as the
partition is within its limit, a settlement leaves the other offsets in flight alone, and
what it hands out is below all of them.
-/

namespace ClusterEvents.Tracker

open Pending

/-- An offset of a partition was tracked and is not settled. -/
def IsInFlight (t : Tracker) (p : Partition) (o : Int) : Prop :=
  (o, Slot.inFlight) ∈ t.pending p

/-- The offsets of every partition stand in ascending order. -/
def IsSorted (t : Tracker) : Prop :=
  ∀ p, (t.pending p).IsAscending

variable {t : Tracker} {m : Message} {slot : Slot} {p : Partition} {o : Int}

theorem isSorted_withLimit (limit : Nat) : (withLimit limit).IsSorted :=
  fun _ => List.Pairwise.nil

theorem length_pending_le {n : Nat} (t : Tracker)
    (h : ∀ entry ∈ t.partitions, entry.2.length ≤ n) (p : Partition) :
    (t.pending p).length ≤ n := by
  unfold pending
  generalize t.partitions = entries at h ⊢
  induction entries with
  | nil => exact Nat.zero_le n
  | cons entry rest ih =>
      obtain ⟨q, waiting⟩ := entry
      rw [Ascending.get?]
      split
      · exact h _ List.mem_cons_self
      · exact ih fun entry hentry => h entry (List.mem_cons_of_mem _ hentry)

/-! ## Tracking -/

theorem IsSorted.track (h : t.IsSorted) (m : Message) : (t.track m).IsSorted := by
  intro p
  rw [pending_track]
  split
  · exact isAscending_put _ _ (h m.home)
  · exact h p

/-- What is kept after tracking an offset above all others. -/
theorem mem_pending_track (h : ∀ entry ∈ t.pending m.home, entry.1 < m.offset)
    {entry : Int × Slot} :
    entry ∈ (t.track m).pending p ↔
      entry ∈ t.pending p ∨ p = m.home ∧ entry = (m.offset, .inFlight) := by
  rw [pending_track]
  split
  · rename_i hp
    rw [put_eq_concat _ h, List.mem_append, List.mem_singleton, hp]
    simp
  · rename_i hp
    simp [hp]

/-! ## Settling -/

theorem IsSorted.settle (h : t.IsSorted) : (t.settle m slot).2.IsSorted := by
  intro p
  rw [pending_settle]
  split
  · obtain ⟨front, hfront, -⟩ :=
      exists_released t.limit (Ascending.put m.offset slot (t.pending m.home))
    have hput := isAscending_put m.offset slot (h m.home)
    rw [hfront] at hput
    exact (List.pairwise_append.1 hput).2.1
  · exact h p

section Settle

variable (hsorted : t.IsSorted) (hmem : m.offset ∈ (t.pending m.home).map Prod.fst)
include hsorted hmem

theorem length_put :
    (Ascending.put m.offset slot (t.pending m.home)).length = (t.pending m.home).length := by
  rw [put_eq_map slot (hsorted _) hmem, List.length_map]

theorem mem_put_of_ne {entry : Int × Slot} (hne : entry.1 ≠ m.offset) :
    entry ∈ Ascending.put m.offset slot (t.pending m.home) ↔ entry ∈ t.pending m.home := by
  rw [put_eq_map slot (hsorted _) hmem, List.mem_map]
  constructor
  · rintro ⟨before, hbefore, rfl⟩
    split at hne
    · exact absurd rfl hne
    · rename_i hother
      rwa [if_neg hother]
  · intro hentry
    exact ⟨entry, hentry, if_neg hne⟩

theorem fst_mem_of_mem_put {entry : Int × Slot}
    (hentry : entry ∈ Ascending.put m.offset slot (t.pending m.home)) :
    entry.1 ∈ (t.pending m.home).map Prod.fst := by
  by_cases hne : entry.1 = m.offset
  · rwa [hne]
  · exact List.mem_map_of_mem ((mem_put_of_ne hsorted hmem hne).1 hentry)

theorem fst_mem_of_settle {entry : Int × Slot}
    (hentry : entry ∈ (t.settle m slot).2.pending p) :
    entry.1 ∈ (t.pending p).map Prod.fst := by
  rw [pending_settle] at hentry
  split at hentry
  · rename_i hp
    obtain ⟨front, hfront, -⟩ :=
      exists_released t.limit (Ascending.put m.offset slot (t.pending m.home))
    rw [hp]
    exact fst_mem_of_mem_put hsorted hmem (hfront ▸ List.mem_append_right _ hentry)
  · exact List.mem_map_of_mem hentry

theorem offset_mem_of_ready {c : Message} (hready : (t.settle m slot).1 = some c) :
    c.home = m.home ∧ c.offset ∈ (t.pending m.home).map Prod.fst := by
  rw [settle_eq] at hready
  obtain ⟨o, ho, rfl⟩ := Option.map_eq_some_iff.1 hready
  obtain ⟨front, hfront, hlast⟩ :=
    exists_released t.limit (Ascending.put m.offset slot (t.pending m.home))
  have hin := mem_of_lastAcknowledged (hlast.symm.trans ho)
  exact ⟨rfl, fst_mem_of_mem_put hsorted hmem (hfront ▸ List.mem_append_left _ hin)⟩

variable (hfits : (t.pending m.home).length ≤ t.limit)
include hfits

theorem released_of_fits :
    t.released m slot =
      (lastAcknowledged
          ((Ascending.put m.offset slot (t.pending m.home)).takeWhile isSettled),
        (Ascending.put m.offset slot (t.pending m.home)).dropWhile isSettled) :=
  release_of_length_le ((length_put hsorted hmem).le.trans hfits)

/-- Other offsets in flight stay in flight. -/
theorem IsInFlight.settle (h : t.IsInFlight p o) (hne : p = m.home → o ≠ m.offset) :
    (t.settle m slot).2.IsInFlight p o := by
  rw [IsInFlight, pending_settle]
  split
  · rename_i hp
    subst hp
    have hput : (o, Slot.inFlight) ∈ Ascending.put m.offset slot (t.pending m.home) :=
      (mem_put_of_ne hsorted hmem (hne rfl)).2 h
    rw [← List.takeWhile_append_dropWhile (p := isSettled)
      (l := Ascending.put m.offset slot (t.pending m.home))] at hput
    rw [released_of_fits hsorted hmem hfits]
    refine (List.mem_append.1 hput).resolve_left fun hfront => ?_
    have hsettled := List.mem_takeWhile_imp hfront
    cases hsettled
  · exact h

theorem lt_of_ready {c : Message} (hready : (t.settle m slot).1 = some c)
    (h : (t.settle m slot).2.IsInFlight m.home o) : c.offset < o := by
  rw [IsInFlight, pending_settle, if_pos rfl, released_of_fits hsorted hmem hfits] at h
  rw [settle_eq, released_of_fits hsorted hmem hfits] at hready
  obtain ⟨o', ho', rfl⟩ := Option.map_eq_some_iff.1 hready
  have hput := isAscending_put m.offset slot (hsorted m.home)
  rw [← List.takeWhile_append_dropWhile (p := isSettled)
    (l := Ascending.put m.offset slot (t.pending m.home))] at hput
  exact (List.pairwise_append.1 hput).2.2 _ (mem_of_lastAcknowledged ho') _ h

end Settle

end ClusterEvents.Tracker
