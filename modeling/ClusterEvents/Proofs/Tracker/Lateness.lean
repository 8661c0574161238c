import ClusterEvents.Proofs.Tracker.Slots

/-!
# Acknowledgments that come late

Beyond its limit a partition gives up on offsets in flight, so an offset may be handed
out while a lower one still waits for its acknowledgment. When that one comes at last,
the offset is put back in front of the partition and handed out again unless something
higher goes with it. What is handed out for a partition therefore ascends exactly as long
as every late acknowledgment goes with a higher offset, and it does not always.
-/

namespace ClusterEvents.Tracker

open Pending

/-- An acknowledgment is late if a higher offset of its partition was handed out. -/
def IsLate (t : Tracker) (before : List Call) (m : Message) : Prop :=
  ∃ o ∈ t.handedOut m.home before, m.offset < o

instance (t : Tracker) (before : List Call) (m : Message) : Decidable (t.IsLate before m) :=
  inferInstanceAs (Decidable (∃ o ∈ t.handedOut m.home before, m.offset < o))

/-- The tracked offsets of a partition are those that are gone, among them all that were
handed out, and behind them those that the tracker keeps. -/
structure Keeps (t : Tracker) (p : Partition) (calls : List Call) (gone left : List Int) :
    Prop where
  tracked_eq : tracked p calls = gone ++ left
  pending_eq : (t.after calls).pending p = slotted p calls left
  of_handedOut : ∀ o ∈ t.handedOut p calls, o ∈ gone ∧ o ∈ acknowledged p calls

/-- What a release takes off slotted offsets. -/
theorem exists_released_slotted (limit : Nat) (p : Partition) (calls : List Call)
    (offsets : List Int) :
    ∃ l₁ l₂, offsets = l₁ ++ l₂ ∧
      (release limit (slotted p calls offsets)).2 = slotted p calls l₂ ∧
      ∀ o ∈ (release limit (slotted p calls offsets)).1,
        o ∈ l₁ ∧ o ∈ acknowledged p calls := by
  obtain ⟨front, hfront, hlast⟩ := exists_released limit (slotted p calls offsets)
  obtain ⟨l₁, l₂, hsplit, rfl, hleft⟩ := List.map_eq_append_iff.1 hfront
  refine ⟨l₁, l₂, hsplit, hleft.symm, fun o ho => ?_⟩
  have hslot := mem_of_lastAcknowledged (hlast.symm.trans ho)
  obtain ⟨o', ho', heq⟩ := List.mem_map.1 hslot
  obtain ⟨rfl, hack⟩ := Prod.mk.inj heq
  exact ⟨ho', slotOf_eq_acknowledged.1 hack⟩

variable {t : Tracker} {p : Partition} {calls : List Call} {c : Call} {gone left : List Int}

namespace Keeps

theorem lt (hk : Keeps t p calls gone left) (h : Orderly calls) :
    ∀ o ∈ gone, ∀ o' ∈ left, o < o' := by
  have hasc := h.ascending p
  rw [hk.tracked_eq] at hasc
  exact (List.pairwise_append.1 hasc).2.2

theorem left_ascending (hk : Keeps t p calls gone left) (h : Orderly calls) :
    left.Pairwise (· < ·) := by
  have hasc := h.ascending p
  rw [hk.tracked_eq] at hasc
  exact (List.pairwise_append.1 hasc).2.1

end Keeps

section Settle

variable {slot : Slot} (hk : Keeps t c.home calls gone left) (h : Orderly (calls ++ [c]))
include hk h

theorem released_of_mem_left (hc : c.slot? = some slot) (hmem : c.offset ∈ left) :
    (t.after calls).released c.message slot =
      release t.limit (slotted c.home (calls ++ [c]) left) := by
  have hput := put_slotted_of_settle hc (h.of_settle hc).2
    (hk.left_ascending (orderly_concat.1 h).1) hmem
  rw [← hput, ← hk.pending_eq, ← limit_after t calls]
  rfl

/-- A settlement of an offset that is gone: it is put back in front. -/
theorem released_of_mem_gone (hmem : c.offset ∈ gone) :
    (t.after calls).released c.message slot =
      release t.limit ((c.offset, slot) :: slotted c.home (calls ++ [c]) left) := by
  have habove : ∀ o ∈ left, c.offset < o := hk.lt (orderly_concat.1 h).1 _ hmem
  have hnot : c.offset ∉ left := fun hin => lt_irrefl _ (habove _ hin)
  have hfront : ∀ entry ∈ slotted c.home calls left, c.offset < entry.1 :=
    forall_slotted habove
  have hput := put_eq_cons slot hfront
  rw [slotted_concat_of_not_mem hnot, ← hput, ← hk.pending_eq, ← limit_after t calls]
  rfl

/-- An acknowledged offset that is gone is handed out again, unless the partition
releases something higher without it. -/
theorem released_of_acknowledge_gone (hmem : c.offset ∈ gone) :
    ((t.after calls).released c.message .acknowledged).1 =
      (release t.limit ((t.after calls).pending c.home)).1.or (some c.offset) := by
  have hnot : c.offset ∉ left := fun hin =>
    lt_irrefl _ (hk.lt (orderly_concat.1 h).1 _ hmem _ hin)
  rw [released_of_mem_gone hk h hmem, hk.pending_eq, slotted_concat_of_not_mem hnot]
  rfl

/-- What a settlement takes is a front of what was kept, and what it hands out is in that
front or is the settled offset itself, which then was gone. -/
theorem exists_released_front (hc : c.slot? = some slot) :
    ∃ l₁ l₂, left = l₁ ++ l₂ ∧
      ((t.after calls).released c.message slot).2 = slotted c.home (calls ++ [c]) l₂ ∧
      ∀ o ∈ ((t.after calls).released c.message slot).1,
        (o ∈ l₁ ∨ o = c.offset ∧ c.offset ∈ gone) ∧
          o ∈ acknowledged c.home (calls ++ [c]) := by
  obtain ⟨l₁, l₂, hsplit, hleft, hout⟩ :=
    exists_released_slotted t.limit c.home (calls ++ [c]) left
  have hknown := (h.of_settle hc).1
  rw [hk.tracked_eq] at hknown
  rcases List.mem_append.1 hknown with hgone | hkept
  · rw [released_of_mem_gone hk h hgone]
    refine ⟨l₁, l₂, hsplit, ?_⟩
    cases c with
    | track m => cases hc
    | acknowledge m =>
        cases hc
        refine ⟨hleft, fun o ho => ?_⟩
        rcases Option.or_eq_some_iff.1 ho with ho | ⟨-, ho⟩
        · exact ⟨.inl (hout o ho).1, (hout o ho).2⟩
        · obtain rfl := Option.some.inj ho
          exact ⟨.inr ⟨rfl, hgone⟩, mem_offsets_concat.2 (.inr ⟨⟨rfl, rfl⟩, rfl⟩)⟩
    | skip m =>
        cases hc
        exact ⟨hleft, fun o ho => ⟨.inl (hout o ho).1, (hout o ho).2⟩⟩
  · rw [released_of_mem_left hk h hc hkept]
    exact ⟨l₁, l₂, hsplit, hleft, fun o ho => ⟨.inl (hout o ho).1, (hout o ho).2⟩⟩

end Settle

/-! ## What every history keeps -/

theorem Keeps.concat (hk : Keeps t p calls gone left) (h : Orderly (calls ++ [c])) :
    ∃ gone left, Keeps t p (calls ++ [c]) gone left := by
  have hbefore := (orderly_concat.1 h).1
  have hold : ∀ o ∈ t.handedOut p calls, o ∈ gone ∧ o ∈ acknowledged p (calls ++ [c]) :=
    fun o ho => ⟨(hk.of_handedOut o ho).1, mem_offsets_concat.2 (.inl (hk.of_handedOut o ho).2)⟩
  by_cases hp : p = c.home
  · subst hp
    cases hc : c.slot? with
    | none =>
        have hnot := not_settled_of_track h hc
        have habove : ∀ o ∈ left, o < c.offset := fun o ho =>
          h.lt_of_track hc o (hk.tracked_eq ▸ List.mem_append_right _ ho)
        refine ⟨gone, left ++ [c.offset], ?_, ?_, ?_⟩
        · rw [tracked_concat_of_track hc, hk.tracked_eq, List.append_assoc]
        · rw [after_concat, pending_answer_of_track _ hc, hk.pending_eq,
            put_slotted_of_track hc habove hnot]
        · rwa [handedOut_concat_of_track t hc]
    | some slot =>
        obtain ⟨l₁, l₂, rfl, hleft, hout⟩ := exists_released_front hk h hc
        refine ⟨gone ++ l₁, l₂, ?_, ?_, fun o ho => ?_⟩
        · rw [tracked_concat_of_settle (by simp [hc]), hk.tracked_eq, List.append_assoc]
        · rw [after_concat, answer_of_slot? hc]
          exact (pending_settle _ _ _ _).trans ((if_pos rfl).trans hleft)
        · rw [handedOut_concat_of_settle t hc] at ho
          rcases List.mem_append.1 ho with ho | ho
          · exact ⟨List.mem_append_left _ (hold o ho).1, (hold o ho).2⟩
          · obtain ⟨hfront | ⟨rfl, hgone⟩, hack⟩ := hout o (Option.mem_toList.1 ho)
            · exact ⟨List.mem_append_right _ hfront, hack⟩
            · exact ⟨List.mem_append_left _ hgone, hack⟩
  · refine ⟨gone, left, ?_, ?_, ?_⟩
    · exact (offsets_concat_of_ne _ _ hp).trans hk.tracked_eq
    · rw [after_concat, pending_answer_of_ne _ hp, hk.pending_eq,
        slotted_concat_of_home_ne hp]
    · rwa [handedOut_concat_of_ne _ _ hp]

theorem exists_keeps (limit : Nat) (h : Orderly calls) (p : Partition) :
    ∃ gone left, Keeps (withLimit limit) p calls gone left := by
  induction calls using List.reverseRecOn with
  | nil => exact ⟨[], [], rfl, rfl, fun o ho => by cases ho⟩
  | append_singleton calls c ih =>
      obtain ⟨gone, left, hk⟩ := ih (orderly_concat.1 h).1
      exact hk.concat h

/-! ## When what is handed out ascends -/

/-- What a release without the settled offset hands out is above what is gone. -/
theorem lt_of_release (hk : Keeps t p calls gone left) (h : Orderly calls) {a o : Int}
    (ha : a ∈ gone) (ho : (release t.limit ((t.after calls).pending p)).1 = some o) :
    a < o := by
  obtain ⟨l₁, l₂, hsplit, -, hout⟩ := exists_released_slotted t.limit p calls left
  rw [hk.pending_eq] at ho
  exact hk.lt h a ha o (hsplit ▸ List.mem_append_left _ (hout o ho).1)

/-- A settlement hands out something above all that was handed out before, unless it is
a late acknowledgment with which nothing higher goes. -/
theorem forall_lt_released_iff {slot : Slot} (hk : Keeps t c.home calls gone left)
    (h : Orderly (calls ++ [c])) (hc : c.slot? = some slot) :
    (∀ a ∈ t.handedOut c.home calls, ∀ o ∈ ((t.after calls).released c.message slot).1,
        a < o) ↔
      (slot = .acknowledged → t.IsLate calls c.message →
        (release t.limit ((t.after calls).pending c.home)).1.isSome) := by
  have hbefore := (orderly_concat.1 h).1
  obtain ⟨hknown, hnot⟩ := h.of_settle hc
  constructor
  · rintro hlt rfl ⟨a, ha, hlate⟩
    have hgone := (hk.of_handedOut a ha).1
    have hmem : c.offset ∈ gone := by
      rw [hk.tracked_eq] at hknown
      refine (List.mem_append.1 hknown).resolve_right fun hin => ?_
      exact lt_asymm hlate (hk.lt hbefore a hgone _ hin)
    by_contra hnone
    have hagain : ((t.after calls).released c.message .acknowledged).1 = some c.offset := by
      rw [released_of_acknowledge_gone hk h hmem, Option.not_isSome_iff_eq_none.1 hnone]
      rfl
    exact lt_asymm hlate (hlt a ha c.offset hagain)
  · intro hgoes a ha o ho
    have hgone := hk.of_handedOut a ha
    obtain ⟨l₁, l₂, hsplit, -, hout⟩ := exists_released_front hk h hc
    obtain ⟨hfront | ⟨rfl, hmem⟩, hack⟩ := hout o ho
    · exact hk.lt hbefore a hgone.1 o (hsplit ▸ List.mem_append_left _ hfront)
    · -- the settled offset itself is handed out, so it was acknowledged, and not before
      have hslot : slot = .acknowledged := by
        rcases mem_offsets_concat.1 hack with hold | ⟨⟨hkind, -⟩, -⟩
        · exact absurd (acknowledged_subset_settled _ _ hold) hnot
        · exact Option.some.inj (hc.symm.trans (beq_iff_eq.1 hkind))
      subst hslot
      by_contra hge
      have hne : a ≠ c.offset := fun heq =>
        hnot (heq ▸ acknowledged_subset_settled _ _ hgone.2)
      have hlate : t.IsLate calls c.message := ⟨a, ha, by
        have hlt : c.offset < a := by omega
        exact hlt⟩
      obtain ⟨higher, hhigher⟩ := Option.isSome_iff_exists.1 (hgoes rfl hlate)
      rw [released_of_acknowledge_gone hk h hmem, hhigher] at ho
      have hsame : higher = c.offset := Option.some.inj ho
      exact lt_irrefl _ (hsame ▸ lt_of_release hk hbefore hmem hhigher)

/-- What is handed out for a partition ascends exactly if every late acknowledgment on it
goes with a higher offset, which the partition, then beyond its limit, releases in the same
call. -/
theorem handedOut_ascending_iff (limit : Nat) (calls : List Call) (h : Orderly calls)
    (p : Partition) :
    ((withLimit limit).handedOut p calls).Pairwise (· < ·) ↔
      ∀ before c, before ++ [c] <+: calls → c.slot? = some .acknowledged → c.home = p →
        (withLimit limit).IsLate before c.message →
        (release (max limit 1) (((withLimit limit).after before).pending p)).1.isSome := by
  induction calls using List.reverseRecOn with
  | nil => simp [handedOut]
  | append_singleton calls c ih =>
      have hbefore := (orderly_concat.1 h).1
      obtain ⟨gone, left, hk⟩ := exists_keeps limit hbefore p
      refine Iff.trans ?_ forall_prefix_concat.symm
      by_cases hp : p = c.home
      · subst hp
        cases hc : c.slot? with
        | none =>
            rw [handedOut_concat_of_track _ hc, ih hbefore]
            exact (and_iff_left fun hnone => by cases hnone).symm
        | some slot =>
            have hstep := forall_lt_released_iff hk h hc
            rw [handedOut_concat_of_settle _ hc, List.pairwise_append]
            refine and_congr (ih hbefore) ?_
            rw [and_iff_right]
            · simp only [Option.mem_toList]
              refine hstep.trans ⟨fun hgoes hs _ => hgoes (Option.some.inj hs), fun hgoes hs =>
                hgoes (congrArg some hs) trivial⟩
            · cases ((withLimit limit).after calls |>.released c.message slot).1 with
              | none => exact List.Pairwise.nil
              | some o => exact List.pairwise_singleton _ _
      · rw [handedOut_concat_of_ne _ _ hp, ih hbefore]
        exact (and_iff_left fun _ hhome => absurd hhome.symm hp).symm

section Runs

/-- A message of one partition. -/
def event (offset : Int) : Message := { topic := "events", partition := 0, offset }

/-- Offsets are given up for the fourth and the fifth message, and the first is
acknowledged at last. -/
def lateness : List Call :=
  [.track (event 0), .track (event 1), .track (event 2), .acknowledge (event 1),
    .track (event 3), .acknowledge (event 3), .track (event 4), .acknowledge (event 0)]

/-- A late acknowledgment that goes with a higher offset does no harm. -/
theorem lateness_ascends : Orderly lateness ∧
    ((withLimit 2).handedOut (event 0).home lateness).Pairwise (· < ·) := by
  have horderly : Orderly lateness := by decide
  have hall : ∀ calls ∈ lateness.inits, ∀ c ∈ calls.getLast?,
      c.slot? = some .acknowledged → (withLimit 2).IsLate calls.dropLast c.message →
      (release 2 (((withLimit 2).after calls.dropLast).pending (event 0).home)).1.isSome := by
    decide
  refine ⟨horderly, (handedOut_ascending_iff 2 lateness horderly (event 0).home).2 ?_⟩
  intro before c hpre hack _ hlate
  have hlast := hall _ ((List.mem_inits _ _).2 hpre) c List.getLast?_concat hack
  rw [List.dropLast_concat] at hlast
  exact hlast hlate

/-- With room for one offset, the second message is handed out before the first, which
its late acknowledgment hands out after it. -/
theorem late_acknowledgment_goes_back :
    ¬ ∀ (limit : Nat) (calls : List Call), 1 ≤ limit → Orderly calls →
      ∀ p, ((withLimit limit).handedOut p calls).Pairwise (· < ·) := by
  intro hall
  have hback := hall 1
    [.track (event 0), .track (event 1), .acknowledge (event 1), .acknowledge (event 0)]
    (by decide) (by decide) (event 0).home
  revert hback
  decide

end Runs

end ClusterEvents.Tracker
