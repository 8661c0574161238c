import ClusterEvents.Proofs.Stretches
import ClusterEvents.Proofs.Tracker.Slots

/-!
# A tracker computes the settled prefix

The settled prefix of a partition is what was tracked up to the first offset that is not
settled. It is defined on histories, without a tracker. As long as no partition holds
back more offsets than the limit allows, a tracker keeps exactly the tracked offsets
behind the settled prefix, and a settlement hands out the highest acknowledged offset of
the prefix whenever the prefix gains an acknowledged one.
-/

namespace ClusterEvents.Tracker

open Pending

/-- The tracked offsets with no unsettled one up to them. -/
def settledPrefix (p : Partition) (calls : List Call) : List Int :=
  (tracked p calls).filter fun o =>
    ∀ o' ∈ tracked p calls, o' ≤ o → o' ∈ settled p calls

/-- The acknowledged offsets of the settled prefix. -/
def committable (p : Partition) (calls : List Call) : List Int :=
  (settledPrefix p calls).filter (· ∈ acknowledged p calls)

/-- The tracked offsets behind the settled prefix. -/
def heldBack (p : Partition) (calls : List Call) : List Int :=
  (tracked p calls).filter (· ∉ settledPrefix p calls)

/-- No partition ever holds back more offsets than a limit. -/
def Within (limit : Nat) (calls : List Call) : Prop :=
  ∀ before, before <+: calls → ∀ p, (heldBack p before).length ≤ limit

theorem Within.of_prefix {limit : Nat} {before calls : List Call} (h : Within limit calls)
    (hpre : before <+: calls) : Within limit before :=
  fun earlier hearlier => h earlier (hearlier.trans hpre)

/-! ## The prefix as a front of the tracked offsets -/

section Ascending

variable {l : List Int}

theorem filter_up_to_eq_takeWhile (hasc : l.Pairwise (· < ·)) (P : Int → Prop)
    [DecidablePred P] :
    (l.filter fun o => ∀ o' ∈ l, o' ≤ o → P o') = l.takeWhile (P ·) := by
  induction l with
  | nil => rfl
  | cons a l ih =>
      obtain ⟨hhead, htail⟩ := List.pairwise_cons.1 hasc
      by_cases ha : P a
      · have hrest : ∀ o ∈ l, (∀ o' ∈ a :: l, o' ≤ o → P o') ↔ ∀ o' ∈ l, o' ≤ o → P o' := by
          intro o _
          simp [ha]
        have hfirst : ∀ o' ∈ a :: l, o' ≤ a → P o' := by
          intro o' ho' hle
          rcases List.mem_cons.1 ho' with rfl | ho'
          · exact ha
          · have hlt := hhead o' ho'
            omega
        rw [List.takeWhile_cons_of_pos (by simpa using ha), ← ih htail,
          List.filter_cons_of_pos (by simpa using hfirst)]
        exact congrArg _ (List.filter_congr fun o ho => by simp only [hrest o ho])
      · rw [List.takeWhile_cons_of_neg (by simpa using ha), List.filter_eq_nil_iff]
        intro o ho hall
        have hle : a ≤ o := by
          rcases List.mem_cons.1 ho with rfl | ho
          · exact le_rfl
          · exact (hhead o ho).le
        exact ha (of_decide_eq_true hall a List.mem_cons_self hle)

theorem filter_not_mem_takeWhile (hasc : l.Pairwise (· < ·)) (P : Int → Bool) :
    l.filter (· ∉ l.takeWhile P) = l.dropWhile P := by
  have hsplit := List.takeWhile_append_dropWhile (p := P) (l := l)
  have hdisj := (List.pairwise_append.1 (hsplit.symm ▸ hasc)).2.2
  have htake : (l.takeWhile P).filter (· ∉ l.takeWhile P) = [] := by
    simp [List.filter_eq_nil_iff]
  have hdrop : (l.dropWhile P).filter (· ∉ l.takeWhile P) = l.dropWhile P := by
    refine List.filter_eq_self.2 fun o ho => decide_eq_true fun hin => ?_
    exact absurd (hdisj o hin o ho) (lt_irrefl o)
  calc l.filter (· ∉ l.takeWhile P)
      = (l.takeWhile P ++ l.dropWhile P).filter (· ∉ l.takeWhile P) := by rw [hsplit]
    _ = l.dropWhile P := by rw [List.filter_append, htake, hdrop, List.nil_append]

theorem max?_eq_getLast? (hasc : l.Pairwise (· < ·)) : l.max? = l.getLast? := by
  cases hlast : l.getLast? with
  | none => rw [List.getLast?_eq_none_iff.1 hlast, List.max?_nil]
  | some o =>
      obtain ⟨front, rfl⟩ := List.getLast?_eq_some_iff.1 hlast
      refine List.max?_eq_some_iff.2 ⟨by simp, fun o' ho' => ?_⟩
      rcases List.mem_append.1 ho' with ho' | ho'
      · exact ((List.pairwise_append.1 hasc).2.2 o' ho' o (List.mem_singleton_self o)).le
      · exact (List.mem_singleton.1 ho').le

end Ascending

variable {p : Partition} {calls : List Call} {c : Call}

theorem settledPrefix_eq_takeWhile (h : Orderly calls) (p : Partition) :
    settledPrefix p calls = (tracked p calls).takeWhile (· ∈ settled p calls) :=
  filter_up_to_eq_takeWhile (h.ascending p) _

theorem heldBack_eq_dropWhile (h : Orderly calls) (p : Partition) :
    heldBack p calls = (tracked p calls).dropWhile (· ∈ settled p calls) := by
  rw [heldBack, settledPrefix_eq_takeWhile h, filter_not_mem_takeWhile (h.ascending p)]

theorem settledPrefix_subset_settled (p : Partition) (calls : List Call) :
    settledPrefix p calls ⊆ settled p calls := by
  intro o ho
  obtain ⟨hmem, hall⟩ := List.mem_filter.1 ho
  exact of_decide_eq_true hall o hmem le_rfl

theorem committable_ascending (h : Orderly calls) (p : Partition) :
    (committable p calls).Pairwise (· < ·) :=
  ((h.ascending p).filter _).filter _

theorem heldBack_ascending (h : Orderly calls) (p : Partition) :
    (heldBack p calls).Pairwise (· < ·) :=
  (h.ascending p).filter _

theorem mem_heldBack_of_not_settled {o : Int} (hmem : o ∈ tracked p calls)
    (hnot : o ∉ settled p calls) : o ∈ heldBack p calls := by
  exact List.mem_filter.2 ⟨hmem, decide_eq_true fun hpre =>
    hnot (settledPrefix_subset_settled p calls hpre)⟩

/-! ## One call more -/

theorem settledPrefix_concat_of_ne (hp : p ≠ c.home) :
    settledPrefix p (calls ++ [c]) = settledPrefix p calls := by
  have htr : tracked p (calls ++ [c]) = tracked p calls := offsets_concat_of_ne _ _ hp
  have hset : settled p (calls ++ [c]) = settled p calls := offsets_concat_of_ne _ _ hp
  rw [settledPrefix, settledPrefix, htr, hset]

theorem heldBack_concat_of_ne (hp : p ≠ c.home) :
    heldBack p (calls ++ [c]) = heldBack p calls := by
  have htr : tracked p (calls ++ [c]) = tracked p calls := offsets_concat_of_ne _ _ hp
  rw [heldBack, heldBack, settledPrefix_concat_of_ne hp, htr]

theorem committable_concat_of_ne (hp : p ≠ c.home) :
    committable p (calls ++ [c]) = committable p calls := by
  have hack : acknowledged p (calls ++ [c]) = acknowledged p calls :=
    offsets_concat_of_ne _ _ hp
  rw [committable, committable, settledPrefix_concat_of_ne hp, hack]

section Track

variable (h : Orderly (calls ++ [c])) (hc : c.slot? = none)
include h hc

theorem heldBack_concat_of_track :
    heldBack c.home (calls ++ [c]) = heldBack c.home calls ++ [c.offset] := by
  have hset := not_settled_of_track h hc
  rw [heldBack_eq_dropWhile h, heldBack_eq_dropWhile (orderly_concat.1 h).1,
    tracked_concat_of_track hc, settled_concat_of_track hc, List.dropWhile_append]
  split
  · rename_i hempty
    rw [List.isEmpty_iff.1 hempty, List.nil_append]
    exact List.dropWhile_cons_of_neg (by simpa using hset)
  · rfl

theorem settledPrefix_concat_of_track :
    settledPrefix c.home (calls ++ [c]) = settledPrefix c.home calls := by
  have hset := not_settled_of_track h hc
  rw [settledPrefix_eq_takeWhile h, settledPrefix_eq_takeWhile (orderly_concat.1 h).1,
    tracked_concat_of_track hc, settled_concat_of_track hc, List.takeWhile_append]
  split
  · rename_i hall
    rw [List.takeWhile_cons_of_neg (by simpa using hset), List.append_nil,
      (List.takeWhile_sublist _).eq_of_length hall]
  · rfl

theorem committable_concat_of_track :
    committable c.home (calls ++ [c]) = committable c.home calls := by
  rw [committable, committable, settledPrefix_concat_of_track h hc,
    acknowledged_concat_of_track hc]

end Track

theorem settled_concat_of_settled (o : Int) (ho : decide (o ∈ settled p calls)) :
    decide (o ∈ settled p (calls ++ [c])) :=
  decide_eq_true (mem_offsets_concat.2 (.inl (of_decide_eq_true ho)))

section Settle

variable {slot : Slot} (h : Orderly (calls ++ [c])) (hc : c.slot? = some slot)
include h hc

/-- The acknowledged offsets by which a settlement lengthens the settled prefix. -/
theorem committable_concat_of_settle :
    committable c.home (calls ++ [c]) =
      committable c.home calls ++
        ((heldBack c.home calls).takeWhile (· ∈ settled c.home (calls ++ [c]))).filter
          (· ∈ acknowledged c.home (calls ++ [c])) := by
  have hbefore := (orderly_concat.1 h).1
  have hnot := (h.of_settle hc).2
  -- the offset that is settled now was not in the prefix before
  have hold : (settledPrefix c.home calls).filter (· ∈ acknowledged c.home (calls ++ [c])) =
      committable c.home calls := by
    refine List.filter_congr fun o ho => ?_
    have hset : o ∈ settled c.home calls := settledPrefix_subset_settled _ _ ho
    have hne : o ≠ c.offset := fun heq => hnot (heq ▸ hset)
    exact decide_eq_decide.2 (mem_offsets_concat.trans (or_iff_left fun hlast => hne hlast.2))
  rw [committable, settledPrefix_eq_takeWhile h,
    tracked_concat_of_settle (by simp [hc]),
    takeWhile_of_imp settled_concat_of_settled, List.filter_append,
    ← settledPrefix_eq_takeWhile hbefore, hold, heldBack_eq_dropWhile hbefore]

theorem heldBack_concat_of_settle :
    heldBack c.home (calls ++ [c]) =
      (heldBack c.home calls).dropWhile (· ∈ settled c.home (calls ++ [c])) := by
  rw [heldBack_eq_dropWhile h, heldBack_eq_dropWhile (orderly_concat.1 h).1,
    tracked_concat_of_settle (by simp [hc]), dropWhile_of_imp settled_concat_of_settled]

end Settle

/-! ## The tracker -/

section Tracker

variable {limit : Nat} (h : Orderly (calls ++ [c])) (hw : Within (max limit 1) calls)
include h hw

/-- What a settlement hands out and leaves, once the partition is as the history has it. -/
theorem released_after {slot : Slot} (hc : c.slot? = some slot)
    (hpending : ((withLimit limit).after calls).pending c.home =
      slotted c.home calls (heldBack c.home calls)) :
    ((withLimit limit).after calls).released c.message slot =
      ((((heldBack c.home calls).takeWhile (· ∈ settled c.home (calls ++ [c]))).filter
          (· ∈ acknowledged c.home (calls ++ [c]))).getLast?,
        slotted c.home (calls ++ [c]) (heldBack c.home (calls ++ [c]))) := by
  obtain ⟨hknown, hnot⟩ := h.of_settle hc
  have hput := put_slotted_of_settle hc hnot
    (heldBack_ascending (orderly_concat.1 h).1 c.home)
    (mem_heldBack_of_not_settled hknown hnot)
  have hlen : (slotted c.home (calls ++ [c]) (heldBack c.home calls)).length ≤
      max limit 1 := by
    rw [length_slotted]
    exact hw calls List.prefix_rfl c.home
  have hkind : (isSettled ∘ fun o => (o, slotOf c.home (calls ++ [c]) o)) =
      fun o => decide (o ∈ settled c.home (calls ++ [c])) := by
    funext o
    exact isSettled_slotOf o
  change Pending.release (((withLimit limit).after calls).limit)
    (Ascending.put c.offset slot (((withLimit limit).after calls).pending c.home)) = _
  rw [hpending, hput, limit_after, limit_withLimit, release_of_length_le hlen,
    heldBack_concat_of_settle h hc, slotted, List.takeWhile_map, List.dropWhile_map, hkind]
  exact congrArg (·, _) (lastAcknowledged_slotted _)

theorem pending_after_concat
    (hpending : ((withLimit limit).after calls).pending c.home =
      slotted c.home calls (heldBack c.home calls)) :
    (((withLimit limit).after calls).answer c).2.pending c.home =
      slotted c.home (calls ++ [c]) (heldBack c.home (calls ++ [c])) := by
  cases hc : c.slot? with
  | none =>
      have habove : ∀ o ∈ heldBack c.home calls, o < c.offset :=
        fun o ho => h.lt_of_track hc o (List.mem_of_mem_filter ho)
      rw [pending_answer_of_track _ hc, hpending,
        put_slotted_of_track hc habove (not_settled_of_track h hc),
        heldBack_concat_of_track h hc]
  | some slot =>
      rw [pending_answer_of_settle _ hc, released_after h hw hc hpending]

end Tracker

/-- Within its limit a tracker keeps what is held back, with the slots of the history. -/
theorem pending_after {limit : Nat} (h : Orderly calls) (hw : Within (max limit 1) calls)
    (p : Partition) :
    ((withLimit limit).after calls).pending p = slotted p calls (heldBack p calls) := by
  induction calls using List.reverseRecOn with
  | nil => rfl
  | append_singleton calls c ih =>
      have hbefore := hw.of_prefix (List.prefix_append calls [c])
      have hpending := ih (orderly_concat.1 h).1 hbefore
      rw [after_concat]
      by_cases hp : p = c.home
      · subst hp
        exact pending_after_concat h hbefore hpending
      · rw [pending_answer_of_ne _ hp, hpending, heldBack_concat_of_ne hp,
          slotted_concat_of_home_ne hp]

/-- A settlement hands out the highest acknowledged offset of the settled prefix if the
prefix gained an acknowledged one, and nothing otherwise. -/
theorem answer_after {limit : Nat} (h : Orderly (calls ++ [c]))
    (hw : Within (max limit 1) calls) {slot : Slot} (hc : c.slot? = some slot) :
    (((withLimit limit).after calls).answer c).1 =
      if ∃ o ∈ committable c.home (calls ++ [c]), o ∉ committable c.home calls then
        (committable c.home (calls ++ [c])).max?.map (Message.bare c.home)
      else none := by
  have hpending := pending_after (orderly_concat.1 h).1 hw c.home
  have hasc := committable_ascending h c.home
  rw [answer_of_slot? hc, settle_eq, released_after h hw hc hpending, max?_eq_getLast? hasc]
  have hgrown := committable_concat_of_settle h hc
  generalize ((heldBack c.home calls).takeWhile
    (· ∈ settled c.home (calls ++ [c]))).filter
      (· ∈ acknowledged c.home (calls ++ [c])) = gained at hgrown ⊢
  rw [hgrown] at hasc ⊢
  cases hlast : gained.getLast? with
  | none =>
      have hnil : gained = [] := List.getLast?_eq_none_iff.1 hlast
      rw [hnil, List.append_nil, if_neg]
      · rfl
      · rintro ⟨o, hin, hout⟩
        exact hout hin
  | some o =>
      have hmem : o ∈ gained := List.mem_of_getLast? hlast
      rw [if_pos, List.getLast?_append, hlast]
      · rfl
      · refine ⟨o, List.mem_append_right _ hmem, fun hold => ?_⟩
        exact lt_irrefl o ((List.pairwise_append.1 hasc).2.2 o hold o hmem)

/-! ## Whole histories -/

theorem max?_congr {l l' : List Int} (h : ∀ o, o ∈ l ↔ o ∈ l') : l.max? = l'.max? := by
  cases hmax : l.max? with
  | none =>
      have hnil : l' = [] := by
        refine List.eq_nil_iff_forall_not_mem.2 fun o ho => ?_
        have hin := (h o).2 ho
        rw [List.max?_eq_none_iff.1 hmax] at hin
        cases hin
      rw [hnil, List.max?_nil]
  | some o =>
      obtain ⟨hmem, hle⟩ := List.max?_eq_some_iff.1 hmax
      exact (List.max?_eq_some_iff.2
        ⟨(h o).1 hmem, fun o' ho' => hle o' ((h o').2 ho')⟩).symm

theorem heldBack_eq_nil_of_not_mem (hp : p ∉ calls.map Call.home) : heldBack p calls = [] := by
  have hnone : tracked p calls = [] := by
    refine List.map_eq_nil_iff.2 (List.filter_eq_nil_iff.2 fun c hc hkind => hp ?_)
    exact (of_decide_eq_true hkind).2 ▸ List.mem_map_of_mem hc
  rw [heldBack, hnone, List.filter_nil]

instance (limit : Nat) (calls : List Call) : Decidable (Within limit calls) :=
  decidable_of_iff (∀ before ∈ calls.inits, ∀ c ∈ before,
      (heldBack c.home before).length ≤ limit) <| by
    constructor
    · intro h before hpre p
      by_cases hp : p ∈ before.map Call.home
      · obtain ⟨c, hc, rfl⟩ := List.mem_map.1 hp
        exact h before ((List.mem_inits _ _).2 hpre) c hc
      · rw [heldBack_eq_nil_of_not_mem hp]
        exact Nat.zero_le _
    · intro h before hpre c _
      exact h before ((List.mem_inits _ _).1 hpre) c.home

/-- What is in flight is what the partitions hold back. -/
theorem inFlight_after {limit : Nat} (h : Orderly calls) (hw : Within (max limit 1) calls) :
    ((withLimit limit).after calls).inFlight =
      ∑ p ∈ (calls.map Call.home).toFinset, (heldBack p calls).length := by
  have hpending := fun p => pending_after h hw p
  rw [inFlight_eq_sum (isKeyed_after limit calls) (P := (calls.map Call.home).toFinset)]
  · exact Finset.sum_congr rfl fun p _ => by rw [hpending, length_slotted]
  · intro p hp
    rw [hpending, heldBack_eq_nil_of_not_mem fun hin => hp (List.mem_toFinset.2 hin)]
    rfl

theorem getLast?_handedOut {limit : Nat} (h : Orderly calls)
    (hw : Within (max limit 1) calls) (p : Partition) :
    ((withLimit limit).handedOut p calls).getLast? = (committable p calls).max? := by
  induction calls using List.reverseRecOn with
  | nil => rfl
  | append_singleton calls c ih =>
      have hbefore := hw.of_prefix (List.prefix_append calls [c])
      have hlast := ih (orderly_concat.1 h).1 hbefore
      by_cases hp : p = c.home
      · subst hp
        cases hc : c.slot? with
        | none => rw [handedOut_concat_of_track _ hc, committable_concat_of_track h hc, hlast]
        | some slot =>
            rw [handedOut_concat, answer_after h hbefore hc]
            have hgrown := committable_concat_of_settle h hc
            split
            · rename_i hgain
              obtain ⟨o, hin, -⟩ := hgain
              cases hmax : (committable c.home (calls ++ [c])).max? with
              | none =>
                  rw [List.max?_eq_none_iff.1 hmax] at hin
                  cases hin
              | some o => simp
            · rename_i hgain
              have hsame : (committable c.home (calls ++ [c])).max? =
                  (committable c.home calls).max? := by
                refine max?_congr fun o => ⟨fun hin => ?_, fun hin => ?_⟩
                · by_contra hout
                  exact hgain ⟨o, hin, hout⟩
                · rw [hgrown]
                  exact List.mem_append_left _ hin
              rw [hsame]
              simpa using hlast
      · rw [handedOut_concat_of_ne _ _ hp, committable_concat_of_ne hp, hlast]

theorem settledPrefix_eq_tracked
    (hall : ∀ o ∈ tracked p calls, o ∈ settled p calls) :
    settledPrefix p calls = tracked p calls :=
  List.filter_eq_self.2 fun _ _ => decide_eq_true fun o' ho' _ => hall o' ho'

/-- The tracker computes the settled prefix of every partition: a settlement hands out
the highest acknowledged offset of the prefix exactly when the prefix gains an
acknowledged one, what is in flight is what lies behind the prefixes, and once everything
is settled nothing is in flight and the highest acknowledged offset of each partition was
handed out last. -/
theorem computes_settledPrefix (limit : Nat) (calls : List Call) (h : Orderly calls)
    (hw : Within (max limit 1) calls) :
    (∀ before c, before ++ [c] <+: calls → c.slot?.isSome →
      (((withLimit limit).after before).answer c).1 =
        if ∃ o ∈ committable c.home (before ++ [c]), o ∉ committable c.home before then
          (committable c.home (before ++ [c])).max?.map (Message.bare c.home)
        else none) ∧
    (∀ before, before <+: calls →
      ((withLimit limit).after before).inFlight =
        ∑ p ∈ (before.map Call.home).toFinset, (heldBack p before).length) ∧
    (∀ before, before <+: calls →
      (∀ p, ∀ o ∈ tracked p before, o ∈ settled p before) →
      ((withLimit limit).after before).inFlight = 0 ∧
        ∀ p, ((withLimit limit).handedOut p before).getLast? =
          (acknowledged p before).max?) := by
  have hflight : ∀ before, before <+: calls → ((withLimit limit).after before).inFlight =
      ∑ p ∈ (before.map Call.home).toFinset, (heldBack p before).length :=
    fun before hpre => inFlight_after (h.of_prefix hpre) (hw.of_prefix hpre)
  refine ⟨fun before c hpre hc => ?_, hflight, fun before hpre hall => ⟨?_, fun p => ?_⟩⟩
  · obtain ⟨slot, hslot⟩ := Option.isSome_iff_exists.1 hc
    exact answer_after (h.of_prefix hpre)
      (hw.of_prefix ((List.prefix_append _ _).trans hpre)) hslot
  · rw [hflight before hpre]
    refine Finset.sum_eq_zero fun p _ => ?_
    rw [heldBack, settledPrefix_eq_tracked (hall p)]
    simp [List.filter_eq_nil_iff]
  · rw [getLast?_handedOut (h.of_prefix hpre) (hw.of_prefix hpre) p, committable,
      settledPrefix_eq_tracked (hall p)]
    refine max?_congr fun o => ⟨fun hin => ?_, fun hin => ?_⟩
    · exact of_decide_eq_true (List.mem_filter.1 hin).2
    · have hknown := (h.of_prefix hpre).settled_subset_tracked p
        (acknowledged_subset_settled p before hin)
      exact List.mem_filter.2 ⟨hknown, decide_eq_true hin⟩

/-- Two partitions; on the first, an offset is acknowledged behind one that is skipped
behind one that is still in flight. -/
def gap : List Call :=
  let first (o : Int) : Message := { topic := "events", partition := 0, offset := o }
  let second (o : Int) : Message := { topic := "events", partition := 1, offset := o }
  [.track (first 0), .track (first 1), .track (second 10), .track (first 2),
    .acknowledge (first 2), .skip (first 1), .acknowledge (second 10)]

/-- The call that closes the gap. -/
def closing : Call :=
  .acknowledge { topic := "events", partition := 0, offset := 0 }

theorem closing_hands_out_last :
    Orderly (gap ++ [closing]) ∧ Within (max 3 1) (gap ++ [closing]) ∧
      (((withLimit 3).after gap).answer closing).1 = some (Message.bare ⟨"events", 0⟩ 2) ∧
      ((withLimit 3).after (gap ++ [closing])).inFlight = 0 := by
  have h : Orderly (gap ++ [closing]) := by decide
  have hw : Within (max 3 1) (gap ++ [closing]) := by decide
  have hall : ∀ c ∈ gap ++ [closing], c.slot?.isNone →
      c.offset ∈ settled c.home (gap ++ [closing]) := by decide
  obtain ⟨hanswer, -, hdone⟩ := computes_settledPrefix 3 (gap ++ [closing]) h hw
  refine ⟨h, hw, ?_, (hdone _ List.prefix_rfl fun p o ho => ?_).1⟩
  · exact (hanswer gap closing List.prefix_rfl rfl).trans (by decide)
  · obtain ⟨c, hc, rfl⟩ := List.mem_map.1 ho
    obtain ⟨hmem, hkind⟩ := List.mem_filter.1 hc
    obtain ⟨htrack, rfl⟩ := of_decide_eq_true hkind
    exact hall c hmem htrack

end ClusterEvents.Tracker
