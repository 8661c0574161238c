import ClusterEvents.Proofs.Tracker.GivingUp
import ClusterEvents.Proofs.Tracker.InFlight

/-!
# Histories without any order

Nothing keeps a history from tracking an offset twice, from settling it twice or without
tracking it, or from mixing these in any order. What a tracker keeps of an offset is always what
the last call about it said (`slot_of_mem_pending`), so only an offset that was acknowledged
last can be handed out, and each acknowledgment is good for one time at most
(`count_handedOut_add_le`). `sound_in_any_history` puts these together with what a call takes
off its partition.
-/

namespace ClusterEvents

namespace Pending

variable {o o' : Int} {slot : Slot} {entry : Int × Slot} {entries front : Pending}

theorem mem_put_iff (h : entries.IsAscending) :
    entry ∈ Ascending.put o slot entries ↔
      entry = (o, slot) ∨ entry ∈ entries ∧ entry.1 ≠ o := by
  induction entries with
  | nil => simp [Ascending.put]
  | cons first rest ih =>
      obtain ⟨hfirst, hrest⟩ := List.pairwise_cons.1 h
      have hbehind : entry ∈ rest → first.1 < entry.1 := hfirst entry
      rw [Ascending.put]
      split
      · grind
      · split
        · grind
        · rw [List.mem_cons, ih hrest]
          grind

theorem count_put_le (o : Int) (slot : Slot) (entries : Pending) (entry : Int × Slot) :
    (Ascending.put o slot entries).count entry ≤
      entries.count entry + if (o, slot) = entry then 1 else 0 := by
  induction entries with
  | nil => simp [Ascending.put, List.count_cons]
  | cons first rest ih =>
      obtain ⟨o', slot'⟩ := first
      simp only [Ascending.put, List.count_cons, beq_iff_eq]
      split
      · simp only [List.count_cons, beq_iff_eq, le_refl]
      · split
        · simp only [List.count_cons, beq_iff_eq]
          omega
        · simp only [List.count_cons, beq_iff_eq]
          omega

/-- The last acknowledged one of some entries in order is the highest. -/
theorem exists_lastAcknowledged (h : front.IsAscending) (ho : (o, Slot.acknowledged) ∈ front) :
    ∃ o' ∈ lastAcknowledged front, o ≤ o' := by
  induction front with
  | nil => cases ho
  | cons first rest ih =>
      obtain ⟨hfirst, hrest⟩ := List.pairwise_cons.1 h
      rw [lastAcknowledged_cons]
      rcases List.mem_cons.1 ho with rfl | ho
      · cases hlast : lastAcknowledged rest with
        | none => exact ⟨o, rfl, le_rfl⟩
        | some o' => exact ⟨o', rfl, (hfirst _ (mem_of_lastAcknowledged hlast)).le⟩
      · obtain ⟨o', ho', hle⟩ := ih hrest ho
        rw [Option.mem_def.1 ho']
        exact ⟨o', rfl, hle⟩

theorem count_lastAcknowledged_le (front : Pending) (o : Int) :
    (lastAcknowledged front).toList.count o ≤ front.count (o, .acknowledged) := by
  cases hlast : lastAcknowledged front with
  | none => exact Nat.zero_le _
  | some o' =>
      by_cases ho : o' = o
      · have hpos := List.count_pos_iff.2 (ho ▸ mem_of_lastAcknowledged hlast)
        simpa [ho] using hpos
      · simp [ho]

end Pending

namespace Tracker

open Pending

/-- What a call says of its offset. -/
def Call.slot (c : Call) : Slot :=
  c.slot?.getD .inFlight

/-- The last call about an offset of a partition. -/
def lastCall? (p : Partition) (o : Int) (calls : List Call) : Option Call :=
  (calls.filter fun c => c.home = p ∧ c.offset = o).getLast?

/-- The partition of a call as it is when the offset of the call has been put in, and nothing has
been taken off yet. -/
def found (t : Tracker) (c : Call) : Pending :=
  Ascending.put c.offset c.slot (t.pending c.home)

variable {limit : Nat} {t : Tracker} {p : Partition} {o : Int} {calls : List Call} {c : Call}
  {entry : Int × Slot} {m : Message}

theorem Call.slot?_eq_some (h : c.slot?.isSome) : c.slot? = some c.slot := by
  obtain ⟨slot, hslot⟩ := Option.isSome_iff_exists.1 h
  rw [Call.slot, hslot, Option.getD_some]

/-- A call that says that its offset is acknowledged is an acknowledgment. -/
theorem Call.slot_eq_acknowledged_iff : c.slot = .acknowledged ↔ ∃ m, c = .acknowledge m := by
  cases c <;> simp [Call.slot, Call.slot?]

theorem lastCall?_concat (p : Partition) (o : Int) (calls : List Call) (c : Call) :
    lastCall? p o (calls ++ [c]) =
      if c.home = p ∧ c.offset = o then some c else lastCall? p o calls := by
  rw [lastCall?, List.filter_append]
  split
  · rename_i hc
    rw [List.filter_cons_of_pos (by simpa using hc), List.getLast?_append]
    rfl
  · rename_i hc
    rw [List.filter_cons_of_neg (by simpa using hc), List.filter_nil, List.append_nil]
    rfl

/-! ## One call -/

theorem answer_of_track (t : Tracker) (hc : c.slot? = none) :
    (t.answer c).1 = none ∧ (t.answer c).2.pending c.home = t.found c := by
  rw [pending_answer_of_track t hc, found, Call.slot, hc]
  cases c <;> first | exact ⟨rfl, rfl⟩ | cases hc

theorem answer_of_settle (t : Tracker) (hc : c.slot?.isSome) :
    (t.answer c).1 = (release t.limit (t.found c)).1.map (Message.bare c.home) ∧
      (t.answer c).2.pending c.home = (release t.limit (t.found c)).2 := by
  have hslot := Call.slot?_eq_some hc
  rw [pending_answer_of_settle t hslot, answer_of_slot? hslot, settle_eq]
  exact ⟨rfl, rfl⟩

/-- A call takes a front off its partition, and hands out the last acknowledged offset of it. -/
theorem exists_front (t : Tracker) (c : Call) :
    ∃ front, t.found c = front ++ (t.answer c).2.pending c.home ∧
      (t.answer c).1 = (lastAcknowledged front).map (Message.bare c.home) := by
  cases hc : c.slot? with
  | none =>
      obtain ⟨hready, hleft⟩ := answer_of_track t hc
      exact ⟨[], hleft.symm, hready⟩
  | some slot =>
      obtain ⟨hready, hleft⟩ := answer_of_settle (c := c) t (by simp [hc])
      obtain ⟨front, hfront, hlast⟩ := exists_released t.limit (t.found c)
      exact ⟨front, hleft ▸ hfront, hlast ▸ hready⟩

/-- What a settlement hands out and leaves is what the loop does, and it gives up as often. -/
theorem answer_eq_drain (t : Tracker) (hc : c.slot?.isSome) :
    (t.answer c).1 = (drain t.limit (t.found c)).ready.map (Message.bare c.home) ∧
      (t.answer c).2.pending c.home = (drain t.limit (t.found c)).left ∧
      t.abandonedBy c.message c.slot = (drain t.limit (t.found c)).crowded.length := by
  obtain ⟨hready, hleft⟩ := answer_of_settle t hc
  obtain ⟨hrelease, habandoned⟩ := release_eq_drain t.limit (t.found c)
  rw [hready, hleft, hrelease]
  exact ⟨rfl, rfl, habandoned⟩

/-! ## What is kept -/

theorem IsSorted.found (h : t.IsSorted) (c : Call) : (t.found c).IsAscending :=
  isAscending_put c.offset c.slot (h c.home)

theorem IsSorted.answer (h : t.IsSorted) (c : Call) : (t.answer c).2.IsSorted := by
  cases c with
  | track m => exact h.track m
  | acknowledge m => exact h.settle
  | skip m => exact h.settle

theorem isSorted_after (limit : Nat) (calls : List Call) :
    ((withLimit limit).after calls).IsSorted := by
  induction calls using List.reverseRecOn with
  | nil => exact isSorted_withLimit limit
  | append_singleton calls c ih =>
      rw [after_concat]
      exact ih.answer c

theorem slot_of_mem_found (hsorted : t.IsSorted)
    (h : ∀ entry ∈ t.pending c.home, (lastCall? c.home entry.1 calls).map Call.slot = some entry.2)
    (hmem : entry ∈ t.found c) :
    (lastCall? c.home entry.1 (calls ++ [c])).map Call.slot = some entry.2 := by
  rw [lastCall?_concat]
  rcases (mem_put_iff (hsorted c.home)).1 hmem with rfl | ⟨hold, hne⟩
  · rw [if_pos ⟨rfl, rfl⟩]
    rfl
  · rw [if_neg fun hc => hne hc.2.symm]
    exact h entry hold

/-- An offset is kept with what the last call about it said. -/
theorem slot_of_mem_pending (hmem : entry ∈ ((withLimit limit).after calls).pending p) :
    (lastCall? p entry.1 calls).map Call.slot = some entry.2 := by
  induction calls using List.reverseRecOn generalizing p entry with
  | nil => cases hmem
  | append_singleton calls c ih =>
      rw [after_concat] at hmem
      by_cases hp : p = c.home
      · subst hp
        obtain ⟨front, hfront, -⟩ := exists_front ((withLimit limit).after calls) c
        exact slot_of_mem_found (isSorted_after limit calls) (fun _ => ih)
          (hfront ▸ List.mem_append_right _ hmem)
      · rw [pending_answer_of_ne _ hp] at hmem
        rw [lastCall?_concat, if_neg fun hc => hp hc.1.symm]
        exact ih hmem

/-! ## What is handed out -/

/-- What a call hands out is bare, of its partition, and was found there as acknowledged. -/
theorem of_mem_answer (h : m ∈ (t.answer c).1) :
    m = Message.bare c.home m.offset ∧ (m.offset, .acknowledged) ∈ t.found c := by
  obtain ⟨front, hfront, hready⟩ := exists_front t c
  rw [hready] at h
  obtain ⟨o, ho, rfl⟩ := Option.map_eq_some_iff.1 h
  exact ⟨rfl, hfront ▸ List.mem_append_left _ (mem_of_lastAcknowledged ho)⟩

/-- The last call about a position that is handed out acknowledged it. -/
theorem exists_lastCall?_eq (h : m ∈ (((withLimit limit).after calls).answer c).1) :
    ∃ m', lastCall? c.home m.offset (calls ++ [c]) = some (.acknowledge m') := by
  have hslot := slot_of_mem_found (isSorted_after limit calls) (fun _ => slot_of_mem_pending)
    (of_mem_answer h).2
  obtain ⟨c', hc', hack⟩ := Option.map_eq_some_iff.1 hslot
  obtain ⟨m', rfl⟩ := Call.slot_eq_acknowledged_iff.1 hack
  exact ⟨m', hc'⟩

/-- What a call takes off is a front of its partition, and an acknowledged offset in it is not
above the one that is handed out. -/
theorem exists_taken (hsorted : t.IsSorted) (c : Call) :
    ∃ taken, t.found c = taken ++ (t.answer c).2.pending c.home ∧
      ∀ o, (o, .acknowledged) ∈ taken → ∃ m ∈ (t.answer c).1, o ≤ m.offset := by
  obtain ⟨front, hfront, hready⟩ := exists_front t c
  refine ⟨front, hfront, fun o ho => ?_⟩
  have hascending := hsorted.found c
  rw [hfront] at hascending
  obtain ⟨o', ho', hle⟩ := exists_lastAcknowledged (List.pairwise_append.1 hascending).1 ho
  rw [hready]
  exact ⟨Message.bare c.home o', Option.mem_map_of_mem _ ho', hle⟩

/-! ## How often a position is handed out -/

theorem count_acknowledged_concat (calls : List Call) (c : Call) (o : Int) :
    (acknowledged c.home (calls ++ [c])).count o =
      (acknowledged c.home calls).count o +
        if (c.offset, c.slot) = (o, .acknowledged) then 1 else 0 := by
  rw [acknowledged, acknowledged, offsets_concat]
  cases c <;> simp [Call.slot, Call.slot?, List.count_append, List.count_singleton]

/-- A call hands out or leaves an acknowledged offset only as often as it found it. -/
theorem count_handedOut_concat_le (t : Tracker) (calls : List Call) (c : Call) (o : Int) :
    (t.handedOut c.home (calls ++ [c])).count o +
        (((t.after calls).answer c).2.pending c.home).count (o, .acknowledged) ≤
      (t.handedOut c.home calls).count o +
        ((t.after calls).found c).count (o, .acknowledged) := by
  obtain ⟨front, hfront, hready⟩ := exists_front (t.after calls) c
  have hlast := count_lastAcknowledged_le front o
  have hout : ((((t.after calls).answer c).1.toList.filter (·.home = c.home)).map
      Message.offset) = (lastAcknowledged front).toList := by
    rw [hready]
    cases lastAcknowledged front <;> simp
  rw [handedOut_concat, hout, hfront, List.count_append, List.count_append]
  omega

/-- An acknowledgment is waiting, or has been handed out, once at most. -/
theorem count_handedOut_add_le (limit : Nat) (p : Partition) (o : Int) (calls : List Call) :
    ((withLimit limit).handedOut p calls).count o +
        (((withLimit limit).after calls).pending p).count (o, .acknowledged) ≤
      (acknowledged p calls).count o := by
  induction calls using List.reverseRecOn with
  | nil => rfl
  | append_singleton calls c ih =>
      rw [after_concat]
      by_cases hp : p = c.home
      · subst hp
        have hstep := count_handedOut_concat_le (withLimit limit) calls c o
        have hput := count_put_le c.offset c.slot
          (((withLimit limit).after calls).pending c.home) (o, .acknowledged)
        rw [found] at hstep
        rw [count_acknowledged_concat]
        omega
      · have hack : acknowledged p (calls ++ [c]) = acknowledged p calls :=
          offsets_concat_of_ne _ _ hp
        rw [handedOut_concat_of_ne _ _ hp, pending_answer_of_ne _ hp, hack]
        exact ih

/-! ## Any history -/

/-- Whatever is tracked, acknowledged and skipped, and in whichever order: what a call hands out
is a bare message of its partition, at a position that was acknowledged last, and no position is
handed out more often than it was acknowledged. An acknowledged offset that a call takes off its
partition is not above the one that it hands out. Tracking takes off nothing; a settlement hands
out and leaves what the loop does, which gives up on an offset only while that is in flight, the
smallest of its partition, and one of more than the limit allows, and it leaves no more than
these. -/
theorem sound_in_any_history (limit : Nat) (calls : List Call) :
    (∀ before c, before ++ [c] <+: calls →
      ∀ m ∈ (((withLimit limit).after before).answer c).1,
        m.home = c.home ∧ m.key = [] ∧ m.value = [] ∧ m.headers = [] ∧
        (∃ m', lastCall? m.home m.offset (before ++ [c]) = some (.acknowledge m')) ∧
        (c.slot? = some .skipped → m.offset ≠ c.offset)) ∧
    (∀ p o, ((withLimit limit).handedOut p calls).count o ≤ (acknowledged p calls).count o) ∧
    (∀ before c, before ++ [c] <+: calls →
      let t := (withLimit limit).after before
      let left := (t.answer c).2.pending c.home
      let drained := drain (max limit 1) (t.found c)
      (∃ taken, t.found c = taken ++ left ∧
        ∀ o, (o, .acknowledged) ∈ taken → ∃ m ∈ (t.answer c).1, o ≤ m.offset) ∧
      (∀ p ≠ c.home, (t.answer c).2.pending p = t.pending p) ∧
      (c.slot? = none → left = t.found c) ∧
      (c.slot?.isSome →
        (t.answer c).1 = drained.ready.map (Message.bare c.home) ∧ left = drained.left ∧
        t.abandonedBy c.message c.slot = drained.crowded.length ∧
        (∀ held ∈ drained.crowded, held <:+ t.found c ∧ max limit 1 < held.length ∧
          ∃ o rest, held = (o, .inFlight) :: rest ∧ ∀ entry ∈ rest, o < entry.1) ∧
        left.length ≤ max limit 1)) := by
  refine ⟨fun before c _ m hm => ?_, fun p o => ?_, fun before c _ => ?_⟩
  · have hlast := exists_lastCall?_eq hm
    have hbare := (of_mem_answer hm).1
    rw [hbare]
    refine ⟨rfl, rfl, rfl, rfl, hlast, fun hskip heq => ?_⟩
    -- a skip of the position itself would be the last call about it
    obtain ⟨m', hm'⟩ := hlast
    rw [lastCall?_concat, if_pos ⟨rfl, heq.symm⟩] at hm'
    obtain rfl := Option.some.inj hm'
    cases hskip
  · exact (Nat.le_add_right _ _).trans (count_handedOut_add_le limit p o calls)
  · have hsorted := isSorted_after limit before
    have hlimit : ((withLimit limit).after before).limit = max limit 1 := by
      rw [limit_after, limit_withLimit]
    refine ⟨exists_taken hsorted c, fun p hp => pending_answer_of_ne _ hp,
      fun hc => (answer_of_track _ hc).2, fun hc => ?_⟩
    obtain ⟨hready, hleft, habandoned⟩ := answer_eq_drain ((withLimit limit).after before) hc
    have hlength := (release_left ((withLimit limit).after before).limit
      (((withLimit limit).after before).found c)).2
    rw [← (answer_of_settle _ hc).2] at hlength
    rw [hlimit] at hready hleft habandoned hlength
    exact ⟨hready, hleft, habandoned, fun held => of_mem_crowded (hsorted.found c), hlength⟩

/-- An offset that is acknowledged twice is handed out twice, also if nothing tracked it. -/
example :
    let m : Message := { topic := "events", partition := 0, offset := 5 }
    (withLimit 3).handedOut m.home [.acknowledge m, .skip m, .acknowledge m, .track m] = [5, 5] := by
  decide

end Tracker

end ClusterEvents
