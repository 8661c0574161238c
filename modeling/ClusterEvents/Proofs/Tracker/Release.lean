import ClusterEvents.Stream.Tracker

/-!
# What a release takes off a partition

`Pending.release` walks along a partition from its lowest offset. What it takes is a
front of the partition, what it leaves starts with an offset in flight, and the offset
it hands out is the last acknowledged one of what it took. As long as the partition is
within its limit nothing in flight is taken, and the release is `takeWhile` and
`dropWhile` at the first offset in flight.

The lemmas on `Ascending.put` say where an offset lands: behind all others, in place of
itself, or in front.
-/

namespace ClusterEvents

namespace Pending

/-- An entry that does not wait for its acknowledgment any more. -/
def isSettled (entry : Int × Slot) : Bool :=
  entry.2 ≠ .inFlight

/-- The last acknowledged offset of some entries. -/
def lastAcknowledged (entries : Pending) : Option Int :=
  ((entries.filter fun entry => entry.2 = .acknowledged).getLast?).map Prod.fst

@[simp] theorem lastAcknowledged_nil : lastAcknowledged [] = none := rfl

theorem lastAcknowledged_append (l₁ l₂ : Pending) :
    lastAcknowledged (l₁ ++ l₂) = (lastAcknowledged l₂).or (lastAcknowledged l₁) := by
  simp only [lastAcknowledged, List.filter_append, List.getLast?_append, Option.map_or]

theorem lastAcknowledged_cons (entry : Int × Slot) (rest : Pending) :
    lastAcknowledged (entry :: rest) =
      (lastAcknowledged rest).or
        (if entry.2 = .acknowledged then some entry.1 else none) := by
  have happ := lastAcknowledged_append [entry] rest
  rw [List.singleton_append] at happ
  rw [happ]
  by_cases h : entry.2 = .acknowledged <;> simp [lastAcknowledged, h]

theorem mem_of_lastAcknowledged {entries : Pending} {o : Int}
    (h : lastAcknowledged entries = some o) : (o, Slot.acknowledged) ∈ entries := by
  obtain ⟨⟨o', slot⟩, hlast, rfl⟩ := Option.map_eq_some_iff.1 h
  have hmem := List.mem_of_getLast? hlast
  obtain ⟨hin, hslot⟩ := List.mem_filter.1 hmem
  have hslot : slot = .acknowledged := by simpa using hslot
  exact hslot ▸ hin

/-! ## The walk along a partition -/

/-- What is released is a front of the partition, and the offset handed out is the last
acknowledged one of that front. -/
theorem exists_released (limit : Nat) (entries : Pending) :
    ∃ front, entries = front ++ (release limit entries).2 ∧
      (release limit entries).1 = lastAcknowledged front := by
  fun_induction release limit entries with
  | case1 => exact ⟨[], rfl, rfl⟩
  | case2 offset rest later left hrec ih =>
      rw [hrec] at ih
      obtain ⟨front, hfront, hlast⟩ := ih
      refine ⟨(offset, .acknowledged) :: front, ?_, ?_⟩
      · rw [hfront]
        rfl
      · rw [lastAcknowledged_cons, ← hlast]
        rfl
  | case3 offset rest ih =>
      obtain ⟨front, hfront, hlast⟩ := ih
      refine ⟨(offset, .skipped) :: front, ?_, ?_⟩
      · rw [List.cons_append, ← hfront]
      · simp [lastAcknowledged_cons, hlast]
  | case4 offset rest _ ih =>
      obtain ⟨front, hfront, hlast⟩ := ih
      refine ⟨(offset, .inFlight) :: front, ?_, ?_⟩
      · rw [List.cons_append, ← hfront]
      · simp [lastAcknowledged_cons, hlast]
  | case5 => exact ⟨[], rfl, rfl⟩

/-- What is left starts with an offset in flight, unless nothing is left, and is within
the limit. -/
theorem release_left (limit : Nat) (entries : Pending) :
    (∀ entry ∈ (release limit entries).2.head?, entry.2 = .inFlight) ∧
      (release limit entries).2.length ≤ limit := by
  fun_induction release limit entries with
  | case1 => simp
  | case2 offset rest later left hrec ih =>
      rw [hrec] at ih
      exact ih
  | case3 offset rest ih => exact ih
  | case4 offset rest _ ih => exact ih
  | case5 offset rest hfits => exact ⟨by simp, by simpa using hfits⟩

/-- Within the limit only settled offsets are released: all those in front of the first
one in flight. -/
theorem release_of_length_le {limit : Nat} {entries : Pending}
    (h : entries.length ≤ limit) :
    release limit entries =
      (lastAcknowledged (entries.takeWhile isSettled), entries.dropWhile isSettled) := by
  induction entries with
  | nil => rfl
  | cons entry rest ih =>
      have hrest := ih (Nat.le_of_succ_le h)
      obtain ⟨offset, slot⟩ := entry
      cases slot with
      | acknowledged =>
          have hset : isSettled (offset, .acknowledged) = true := rfl
          rw [release, hrest, List.takeWhile_cons_of_pos hset,
            List.dropWhile_cons_of_pos hset, lastAcknowledged_cons]
          rfl
      | skipped =>
          have hset : isSettled (offset, .skipped) = true := rfl
          rw [release, hrest, List.takeWhile_cons_of_pos hset,
            List.dropWhile_cons_of_pos hset, lastAcknowledged_cons]
          simp
      | inFlight =>
          have hfits : ¬ limit < rest.length + 1 := Nat.not_lt.2 h
          have hset : ¬ isSettled (offset, .inFlight) = true := by simp [isSettled]
          rw [release, if_neg hfits, List.takeWhile_cons_of_neg hset,
            List.dropWhile_cons_of_neg hset, lastAcknowledged_nil]

/-! ## Where an offset lands -/

/-- The entries of a partition stand in strictly ascending order. -/
def IsAscending (entries : Pending) : Prop :=
  entries.Pairwise fun a b => a.1 < b.1

theorem isAscending_put (o : Int) (slot : Slot) {entries : Pending}
    (h : entries.IsAscending) : IsAscending (Ascending.put o slot entries) :=
  Ascending.pairwise_put (fun hab hbc => Int.lt_trans hab hbc)
    (fun hnot hne => by omega) o slot h

theorem put_eq_concat {o : Int} (slot : Slot) {entries : Pending}
    (h : ∀ entry ∈ entries, entry.1 < o) :
    Ascending.put o slot entries = entries ++ [(o, slot)] := by
  induction entries with
  | nil => rfl
  | cons entry rest ih =>
      have hlt : entry.1 < o := h entry List.mem_cons_self
      have hrest := ih fun e he => h e (List.mem_cons_of_mem _ he)
      rw [Ascending.put, if_neg (by omega), if_neg (by omega), hrest, List.cons_append]

theorem put_eq_cons {o : Int} (slot : Slot) {entries : Pending}
    (h : ∀ entry ∈ entries, o < entry.1) :
    Ascending.put o slot entries = (o, slot) :: entries := by
  cases entries with
  | nil => rfl
  | cons entry rest =>
      have hlt : o < entry.1 := h entry List.mem_cons_self
      rw [Ascending.put, if_pos hlt]

theorem put_eq_map {o : Int} (slot : Slot) {entries : Pending}
    (hasc : entries.IsAscending) (h : o ∈ entries.map Prod.fst) :
    Ascending.put o slot entries =
      entries.map fun entry => if entry.1 = o then (o, slot) else entry := by
  induction entries with
  | nil => simp at h
  | cons entry rest ih =>
      obtain ⟨hhead, htail⟩ := List.pairwise_cons.1 hasc
      by_cases heq : entry.1 = o
      · -- the offset stands first, so no later entry is touched
        have hrest : (rest.map fun e => if e.1 = o then (o, slot) else e) = rest := by
          refine (List.map_congr_left fun e he => ?_).trans (List.map_id' rest)
          have hlt := hhead e he
          rw [if_neg (by omega)]
        rw [Ascending.put, if_neg (by omega), if_pos heq.symm, List.map_cons, if_pos heq,
          hrest]
      · have hin : o ∈ rest.map Prod.fst := by
          rcases List.mem_cons.1 h with rfl | hin
          · exact absurd rfl heq
          · exact hin
        have hlt : entry.1 < o := by
          obtain ⟨e, he, rfl⟩ := List.mem_map.1 hin
          exact hhead e he
        rw [Ascending.put, if_neg (by omega), if_neg (by omega), ih htail hin,
          List.map_cons, if_neg heq]

end Pending

end ClusterEvents
