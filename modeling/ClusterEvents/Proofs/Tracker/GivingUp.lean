import ClusterEvents.Proofs.Tracker.Release
import Mathlib.Data.List.TakeWhile

/-!
# Giving up, one offset at a time

A release can be told as a loop. The settled front of a partition is taken off; while more
offsets are left than the limit allows, the partition gives up on its first one, whatever
became of that, and the settled front behind it is taken off. `drain` is this loop, and
`release_eq_drain` says that the walk along a partition and the loop come to the same.

The loop also tells what the partition held each time that it gave up. It only ever gives up
on an offset in flight, for the settled ones in front of it are gone by then
(`of_mem_crowded`).
-/

namespace ClusterEvents.Pending

/-- Takes the settled offsets off the front of a partition. The result tells the last
acknowledged one of them. -/
def advance (entries : Pending) : Option Int × Pending :=
  (lastAcknowledged (entries.takeWhile isSettled), entries.dropWhile isSettled)

/-- What became of a partition that had to come within its limit. -/
structure Relief where
  /-- The offset handed out. -/
  ready : Option Int
  /-- The offsets that the partition keeps. -/
  left : Pending
  /-- What the partition held each time that it gave up on its first offset. -/
  crowded : List Pending

/-- While a partition is beyond the limit, it gives up on its first offset and is advanced;
what that makes ready takes the place of what was ready before. -/
def relieve (limit : Nat) (ready : Option Int) : Pending → Relief
  | [] => ⟨ready, [], []⟩
  | entry :: rest =>
    if limit < rest.length + 1 then
      let relief := relieve limit ((advance rest).1.or ready) (advance rest).2
      { relief with crowded := (entry :: rest) :: relief.crowded }
    else ⟨ready, entry :: rest, []⟩
termination_by entries => entries.length
decreasing_by
  exact Nat.lt_succ_of_le (List.length_dropWhile_le isSettled rest)

/-- A partition is advanced, and relieved from then on. -/
def drain (limit : Nat) (entries : Pending) : Relief :=
  relieve limit (advance entries).1 (advance entries).2

/-- The first offset of a partition, if there is one, is in flight. -/
def IsAdvanced (entries : Pending) : Prop :=
  ∀ entry ∈ entries.head?, entry.2 = .inFlight

theorem isAdvanced_advance (entries : Pending) : IsAdvanced (advance entries).2 := by
  intro entry hentry
  have hnot := List.head?_dropWhile_not isSettled entries
  rw [show (entries.dropWhile isSettled).head? = some entry from hentry] at hnot
  simpa [isSettled] using hnot

/-! ## Settled offsets in front -/

section Settled

variable {front : Pending} (h : ∀ entry ∈ front, isSettled entry = true)
include h

theorem release_append (limit : Nat) (rest : Pending) :
    release limit (front ++ rest) =
      ((release limit rest).1.or (lastAcknowledged front), (release limit rest).2) := by
  induction front with
  | nil => simp
  | cons entry front ih =>
      have hfront := ih fun e he => h e (List.mem_cons_of_mem _ he)
      obtain ⟨offset, slot⟩ := entry
      rw [lastAcknowledged_cons]
      cases slot with
      | acknowledged => simp [release, hfront]
      | skipped => simp [release, hfront]
      | inFlight => exact absurd (h _ List.mem_cons_self) (by simp [isSettled])

theorem abandoned_append (limit : Nat) (rest : Pending) :
    abandoned limit (front ++ rest) = abandoned limit rest := by
  induction front with
  | nil => rfl
  | cons entry front ih =>
      have hfront := ih fun e he => h e (List.mem_cons_of_mem _ he)
      obtain ⟨offset, slot⟩ := entry
      cases slot with
      | inFlight => exact absurd (h _ List.mem_cons_self) (by simp [isSettled])
      | _ => exact hfront

end Settled

theorem release_eq_advance (limit : Nat) (entries : Pending) :
    release limit entries =
      ((release limit (advance entries).2).1.or (advance entries).1,
        (release limit (advance entries).2).2) := by
  have hsplit := List.takeWhile_append_dropWhile (p := isSettled) (l := entries)
  have hfront : ∀ entry ∈ entries.takeWhile isSettled, isSettled entry = true :=
    fun _ h => List.mem_takeWhile_imp h
  have happend := release_append hfront limit (entries.dropWhile isSettled)
  rwa [hsplit] at happend

theorem abandoned_eq_advance (limit : Nat) (entries : Pending) :
    abandoned limit entries = abandoned limit (advance entries).2 := by
  have hsplit := List.takeWhile_append_dropWhile (p := isSettled) (l := entries)
  have hfront : ∀ entry ∈ entries.takeWhile isSettled, isSettled entry = true :=
    fun _ h => List.mem_takeWhile_imp h
  have happend := abandoned_append hfront limit (entries.dropWhile isSettled)
  rwa [hsplit] at happend

/-! ## The loop -/

theorem relieve_eq (limit : Nat) (ready : Option Int) {entries : Pending}
    (h : entries.IsAdvanced) :
    (relieve limit ready entries).ready = (release limit entries).1.or ready ∧
      (relieve limit ready entries).left = (release limit entries).2 ∧
      (relieve limit ready entries).crowded.length = abandoned limit entries := by
  fun_induction relieve limit ready entries with
  | case1 ready => exact ⟨rfl, rfl, rfl⟩
  | case2 ready entry rest hlt relief ih =>
      obtain ⟨offset, slot⟩ := entry
      obtain rfl : slot = .inFlight := h _ rfl
      obtain ⟨hready, hleft, hcrowded⟩ := ih (isAdvanced_advance rest)
      rw [release, if_pos hlt, release_eq_advance, abandoned, if_pos hlt, abandoned_eq_advance]
      exact ⟨by rw [hready, Option.or_assoc], hleft, congrArg (· + 1) hcrowded⟩
  | case3 ready entry rest hge =>
      obtain ⟨offset, slot⟩ := entry
      obtain rfl : slot = .inFlight := h _ rfl
      rw [release, if_neg hge, abandoned, if_neg hge]
      exact ⟨rfl, rfl, rfl⟩

/-- The walk along a partition hands out and leaves what the loop does, and counts how often the
loop gives up. -/
theorem release_eq_drain (limit : Nat) (entries : Pending) :
    release limit entries = ((drain limit entries).ready, (drain limit entries).left) ∧
      abandoned limit entries = (drain limit entries).crowded.length := by
  obtain ⟨hready, hleft, hcrowded⟩ :=
    relieve_eq limit (advance entries).1 (isAdvanced_advance entries)
  rw [release_eq_advance, abandoned_eq_advance, drain, hready, hleft, hcrowded]
  exact ⟨rfl, rfl⟩

/-- What the partition holds when it gives up on its first offset: that one is in flight, and
there are more than the limit allows. -/
theorem of_mem_crowded_relieve {limit : Nat} {ready : Option Int} {entries held : Pending}
    (h : entries.IsAdvanced) (hmem : held ∈ (relieve limit ready entries).crowded) :
    held <:+ entries ∧ limit < held.length ∧
      ∃ offset rest, held = (offset, .inFlight) :: rest := by
  fun_induction relieve limit ready entries with
  | case1 ready => cases hmem
  | case2 ready entry rest hlt relief ih =>
      obtain ⟨offset, slot⟩ := entry
      obtain rfl : slot = .inFlight := h _ rfl
      rcases List.mem_cons.1 hmem with rfl | hmem
      · exact ⟨List.suffix_rfl, hlt, offset, rest, rfl⟩
      · obtain ⟨hsuffix, hheld⟩ := ih (isAdvanced_advance rest) hmem
        exact ⟨hsuffix.trans ((List.dropWhile_suffix _).trans (List.suffix_cons ..)), hheld⟩
  | case3 ready entry rest hge => cases hmem

/-- A partition in order gives up on an offset only if it is in flight, it is the smallest of
those that the partition holds, and these are more than the limit allows. -/
theorem of_mem_crowded {limit : Nat} {entries held : Pending} (hasc : entries.IsAscending)
    (hmem : held ∈ (drain limit entries).crowded) :
    held <:+ entries ∧ limit < held.length ∧ ∃ offset rest, held = (offset, .inFlight) :: rest ∧
      ∀ entry ∈ rest, offset < entry.1 := by
  obtain ⟨hsuffix, hlt, offset, rest, rfl⟩ :=
    of_mem_crowded_relieve (isAdvanced_advance entries) hmem
  have hentries := hsuffix.trans (List.dropWhile_suffix _)
  have hheld := hasc.sublist hentries.sublist
  exact ⟨hentries, hlt, offset, rest, rfl, (List.pairwise_cons.1 hheld).1⟩

end ClusterEvents.Pending
