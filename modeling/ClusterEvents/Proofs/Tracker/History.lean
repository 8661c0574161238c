import ClusterEvents.Proofs.Tracker.Release
import Mathlib.Algebra.BigOperators.Group.Finset.Basic

/-!
# Histories of a tracker

A history is a list of calls to a tracker. This module says what a history is about: the
offsets of each partition that it tracks, settles and acknowledges, what the calls hand
out, and when a history is orderly. A call touches the partition of its message only,
so the offsets of a partition depend on the calls about that partition.
-/

namespace ClusterEvents

theorem Ascending.get?_eq_none {κ α : Type} [DecidableEq κ] {key : κ}
    {entries : List (κ × α)} (h : key ∉ entries.map Prod.fst) : get? key entries = none := by
  induction entries with
  | nil => rfl
  | cons entry rest ih =>
      obtain ⟨hne, hrest⟩ := not_or.1 (List.mem_cons.not.1 h)
      rw [get?, if_neg hne, ih hrest]

@[simp] theorem Message.home_bare (p : Partition) (o : Int) : (Message.bare p o).home = p := rfl

@[simp] theorem Message.offset_bare (p : Partition) (o : Int) :
    (Message.bare p o).offset = o := rfl

namespace Tracker

/-- What can be asked of a tracker. -/
inductive Call where
  | track (m : Message)
  | acknowledge (m : Message)
  | skip (m : Message)
deriving DecidableEq, Repr

namespace Call

/-- The message that a call is about. -/
def message : Call → Message
  | .track m | .acknowledge m | .skip m => m

/-- What the offset of the message is settled as, if the call settles it. -/
def slot? : Call → Option Slot
  | .track _ => none
  | .acknowledge _ => some .acknowledged
  | .skip _ => some .skipped

/-- The partition that a call is about. -/
def home (c : Call) : Partition :=
  c.message.home

/-- The offset that a call is about. -/
def offset (c : Call) : Int :=
  c.message.offset

end Call

/-- What a call hands out, and the tracker after it. -/
def answer (t : Tracker) : Call → Option Message × Tracker
  | .track m => (none, t.track m)
  | .acknowledge m => t.acknowledge m
  | .skip m => t.skip m

/-- The tracker after some calls. -/
def after (t : Tracker) (calls : List Call) : Tracker :=
  calls.foldl (fun t c => (t.answer c).2) t

/-- The offsets of a partition that some calls hand out, in order. -/
def handedOut (t : Tracker) (p : Partition) : List Call → List Int
  | [] => []
  | c :: calls =>
    ((t.answer c).1.toList.filter (·.home = p)).map Message.offset
      ++ (t.answer c).2.handedOut p calls

@[simp] theorem after_nil (t : Tracker) : t.after [] = t := rfl

theorem after_concat (t : Tracker) (calls : List Call) (c : Call) :
    t.after (calls ++ [c]) = ((t.after calls).answer c).2 := by
  simp [after]

theorem handedOut_concat (t : Tracker) (p : Partition) (calls : List Call) (c : Call) :
    t.handedOut p (calls ++ [c]) =
      t.handedOut p calls ++
        (((t.after calls).answer c).1.toList.filter (·.home = p)).map Message.offset := by
  induction calls generalizing t with
  | nil => simp [handedOut]
  | cons c' calls ih =>
      have hafter : t.after (c' :: calls) = (t.answer c').2.after calls := rfl
      rw [List.cons_append, handedOut, handedOut, ih, List.append_assoc, hafter]

/-! ## One partition at a time -/

theorem pending_setPending (t : Tracker) (p q : Partition) (entries : Pending) :
    (t.setPending p entries).pending q = if q = p then entries else t.pending q := by
  by_cases h : q = p
  · simp [pending, setPending, Ascending.get?, h]
  · simp [pending, setPending, Ascending.get?, Ascending.get?_erase, h]

/-- What a settlement hands out of the partition of its message, and what it leaves. -/
def released (t : Tracker) (m : Message) (slot : Slot) : Option Int × Pending :=
  Pending.release t.limit (Ascending.put m.offset slot (t.pending m.home))

theorem settle_eq (t : Tracker) (m : Message) (slot : Slot) :
    t.settle m slot =
      ((t.released m slot).1.map (Message.bare m.home),
        t.setPending m.home (t.released m slot).2) := rfl

theorem pending_track (t : Tracker) (m : Message) (p : Partition) :
    (t.track m).pending p =
      if p = m.home then Ascending.put m.offset .inFlight (t.pending m.home)
      else t.pending p :=
  pending_setPending ..

theorem pending_settle (t : Tracker) (m : Message) (slot : Slot) (p : Partition) :
    (t.settle m slot).2.pending p =
      if p = m.home then (t.released m slot).2 else t.pending p :=
  pending_setPending ..

theorem answer_of_slot? {t : Tracker} {c : Call} {slot : Slot} (h : c.slot? = some slot) :
    t.answer c = t.settle c.message slot := by
  cases c with
  | track m => cases h
  | acknowledge m =>
      cases h
      rfl
  | skip m =>
      cases h
      rfl

theorem pending_answer_of_track (t : Tracker) {c : Call} (h : c.slot? = none) :
    (t.answer c).2.pending c.home =
      Ascending.put c.offset .inFlight (t.pending c.home) := by
  cases c with
  | track m => exact (pending_track t m m.home).trans (if_pos rfl)
  | acknowledge m => cases h
  | skip m => cases h

theorem pending_answer_of_settle (t : Tracker) {c : Call} {slot : Slot}
    (h : c.slot? = some slot) :
    (t.answer c).2.pending c.home = (t.released c.message slot).2 := by
  rw [answer_of_slot? h]
  exact (pending_settle t c.message slot c.home).trans (if_pos rfl)

@[simp] theorem limit_answer (t : Tracker) (c : Call) : (t.answer c).2.limit = t.limit := by
  cases c <;> rfl

@[simp] theorem limit_after (t : Tracker) (calls : List Call) :
    (t.after calls).limit = t.limit := by
  induction calls using List.reverseRecOn with
  | nil => rfl
  | append_singleton calls c ih => rw [after_concat, limit_answer, ih]

@[simp] theorem limit_withLimit (limit : Nat) : (withLimit limit).limit = max limit 1 := rfl

theorem pending_answer_of_ne (t : Tracker) {c : Call} {p : Partition} (h : p ≠ c.home) :
    (t.answer c).2.pending p = t.pending p := by
  have hne : p ≠ c.message.home := h
  cases c with
  | track m => exact (pending_track t m p).trans (if_neg hne)
  | acknowledge m => exact (pending_settle t m .acknowledged p).trans (if_neg hne)
  | skip m => exact (pending_settle t m .skipped p).trans (if_neg hne)

theorem home_of_answer {t : Tracker} {c : Call} {m : Message}
    (h : (t.answer c).1 = some m) : m.home = c.home := by
  cases hslot : c.slot? with
  | none => cases c <;> first | cases h | cases hslot
  | some slot =>
      rw [answer_of_slot? hslot, settle_eq] at h
      obtain ⟨o, -, rfl⟩ := Option.map_eq_some_iff.1 h
      rfl

/-- A call about another partition hands out nothing on a partition. -/
theorem handedOut_concat_of_ne (t : Tracker) (calls : List Call) {c : Call} {p : Partition}
    (h : p ≠ c.home) : t.handedOut p (calls ++ [c]) = t.handedOut p calls := by
  rw [handedOut_concat]
  cases hready : ((t.after calls).answer c).1 with
  | none => simp
  | some m => simp [home_of_answer hready, Ne.symm h]

theorem handedOut_concat_of_track (t : Tracker) {calls : List Call} {c : Call}
    {p : Partition} (hc : c.slot? = none) :
    t.handedOut p (calls ++ [c]) = t.handedOut p calls := by
  have hnone : ((t.after calls).answer c).1 = none := by
    cases c with
    | track m => rfl
    | acknowledge m => cases hc
    | skip m => cases hc
  rw [handedOut_concat, hnone]
  simp

theorem handedOut_concat_of_settle (t : Tracker) {calls : List Call} {c : Call} {slot : Slot}
    (hc : c.slot? = some slot) :
    t.handedOut c.home (calls ++ [c]) =
      t.handedOut c.home calls ++ ((t.after calls).released c.message slot).1.toList := by
  rw [handedOut_concat, answer_of_slot? hc, settle_eq]
  cases ((t.after calls).released c.message slot).1 with
  | none => simp
  | some o => simp [Call.home]

/-! ## All partitions together -/

/-- No partition is listed twice. -/
def IsKeyed (t : Tracker) : Prop :=
  (t.partitions.map Prod.fst).Nodup

theorem isKeyed_setPending {t : Tracker} (h : t.IsKeyed) (p : Partition)
    (entries : Pending) : (t.setPending p entries).IsKeyed := by
  refine List.nodup_cons.2 ⟨?_, ?_⟩
  · simp [Ascending.erase]
  · exact h.sublist (List.filter_sublist.map Prod.fst)

theorem isKeyed_after (limit : Nat) (calls : List Call) :
    ((withLimit limit).after calls).IsKeyed := by
  induction calls using List.reverseRecOn with
  | nil => exact List.nodup_nil
  | append_singleton calls c ih =>
      rw [after_concat]
      cases c <;> exact isKeyed_setPending ih _ _

/-- The offsets in flight are those of the partitions, counted one by one. -/
theorem inFlight_eq_sum {t : Tracker} (h : t.IsKeyed) {P : Finset Partition}
    (hps : ∀ p ∉ P, t.pending p = []) :
    t.inFlight = ∑ p ∈ P, (t.pending p).length := by
  obtain ⟨limit, entries⟩ := t
  simp only [inFlight, pending, IsKeyed] at h hps ⊢
  induction entries generalizing P with
  | nil => simp [Ascending.get?]
  | cons entry rest ih =>
      obtain ⟨q, waiting⟩ := entry
      obtain ⟨hq, hrest⟩ := List.nodup_cons.1 h
      have hother : ∀ p, p ≠ q →
          Ascending.get? p ((q, waiting) :: rest) = Ascending.get? p rest :=
        fun p hp => if_neg hp
      -- the partition listed first is not listed again, so nothing of it is in the rest
      have hgone : Ascending.get? q rest = none := Ascending.get?_eq_none hq
      have hsum := ih hrest (P := P.erase q) fun p hp => by
        by_cases hpq : p = q
        · rw [hpq, hgone]
          rfl
        · rw [← hother p hpq]
          exact hps p fun hmem => hp (Finset.mem_erase.2 ⟨hpq, hmem⟩)
      have hsame : ∑ p ∈ P.erase q, ((Ascending.get? p rest).getD []).length =
          ∑ p ∈ P.erase q, ((Ascending.get? p ((q, waiting) :: rest)).getD []).length :=
        Finset.sum_congr rfl fun p hp => by rw [hother p (Finset.mem_erase.1 hp).1]
      have hfirst : Ascending.get? q ((q, waiting) :: rest) = some waiting := if_pos rfl
      rw [List.map_cons, List.sum_cons, hsum, hsame]
      by_cases hin : q ∈ P
      · rw [← Finset.add_sum_erase P _ hin, hfirst]
        rfl
      · have hnil : waiting = [] := by
          have hq' := hps q hin
          rwa [hfirst] at hq'
        rw [Finset.erase_eq_of_notMem hin, hnil, List.length_nil, Nat.zero_add]

/-! ## What a history is about -/

/-- The offsets of a partition in the calls of a kind, in order. -/
def offsets (kind : Option Slot → Bool) (p : Partition) (calls : List Call) : List Int :=
  (calls.filter fun c => kind c.slot? ∧ c.home = p).map Call.offset

/-- The offsets of a partition that are tracked. -/
def tracked (p : Partition) (calls : List Call) : List Int :=
  offsets Option.isNone p calls

/-- The offsets of a partition that are settled, in the order of settling. -/
def settled (p : Partition) (calls : List Call) : List Int :=
  offsets Option.isSome p calls

/-- The offsets of a partition that are settled as acknowledged. -/
def acknowledged (p : Partition) (calls : List Call) : List Int :=
  offsets (· == some .acknowledged) p calls

theorem offsets_concat (kind : Option Slot → Bool) (p : Partition) (calls : List Call)
    (c : Call) :
    offsets kind p (calls ++ [c]) =
      offsets kind p calls ++ if kind c.slot? ∧ c.home = p then [c.offset] else [] := by
  by_cases h : kind c.slot? ∧ c.home = p
  · simp [offsets, List.filter_append, h.1, h.2]
  · rw [if_neg h]
    simp only [offsets, List.filter_append, List.map_append, List.filter_cons, h,
      decide_false, List.filter_nil, List.map_nil, Bool.false_eq_true, if_false]

theorem offsets_concat_of_ne (kind : Option Slot → Bool) {p : Partition}
    (calls : List Call) {c : Call} (h : p ≠ c.home) :
    offsets kind p (calls ++ [c]) = offsets kind p calls := by
  rw [offsets_concat, if_neg fun hc => h hc.2.symm, List.append_nil]

theorem mem_offsets_concat {kind : Option Slot → Bool} {p : Partition} {calls : List Call}
    {c : Call} {o : Int} :
    o ∈ offsets kind p (calls ++ [c]) ↔
      o ∈ offsets kind p calls ∨ (kind c.slot? ∧ c.home = p) ∧ o = c.offset := by
  rw [offsets_concat, List.mem_append]
  by_cases h : kind c.slot? ∧ c.home = p <;> simp [h]

section Concat

variable {p : Partition} {calls : List Call} {c : Call}

theorem tracked_concat_of_settle (hc : c.slot?.isSome) :
    tracked p (calls ++ [c]) = tracked p calls := by
  rw [tracked, tracked, offsets_concat, if_neg, List.append_nil]
  rintro ⟨hnone, -⟩
  rw [Option.isNone_iff_eq_none.1 hnone] at hc
  cases hc

theorem settled_concat_of_track (hc : c.slot? = none) :
    settled p (calls ++ [c]) = settled p calls := by
  rw [settled, settled, offsets_concat, hc, if_neg (by simp), List.append_nil]

theorem acknowledged_concat_of_track (hc : c.slot? = none) :
    acknowledged p (calls ++ [c]) = acknowledged p calls := by
  rw [acknowledged, acknowledged, offsets_concat, hc, if_neg (by simp), List.append_nil]

theorem tracked_concat_of_track (hc : c.slot? = none) :
    tracked c.home (calls ++ [c]) = tracked c.home calls ++ [c.offset] := by
  rw [tracked, tracked, offsets_concat, if_pos ⟨by simp [hc], rfl⟩]

end Concat

theorem acknowledged_subset_settled (p : Partition) (calls : List Call) :
    acknowledged p calls ⊆ settled p calls := by
  intro o ho
  obtain ⟨c, hc, rfl⟩ := List.mem_map.1 ho
  obtain ⟨hmem, hkind⟩ := List.mem_filter.1 hc
  refine List.mem_map_of_mem (List.mem_filter.2 ⟨hmem, ?_⟩)
  simp only [beq_iff_eq, decide_eq_true_eq] at hkind ⊢
  exact ⟨by simp [hkind.1], hkind.2⟩

/-- A call fits what was called before: what it tracks is above all that was tracked on
its partition, and what it settles was tracked there and not settled yet. -/
def Fits (before : List Call) (c : Call) : Prop :=
  match c.slot? with
  | none => ∀ o ∈ tracked c.home before, o < c.offset
  | some _ => c.offset ∈ tracked c.home before ∧ c.offset ∉ settled c.home before

instance (before : List Call) (c : Call) : Decidable (Fits before c) := by
  unfold Fits
  split <;> infer_instance

/-- Offsets are tracked in ascending order, and each is settled at most once and only
after it was tracked. -/
def Orderly (calls : List Call) : Prop :=
  ∀ before c, before ++ [c] <+: calls → Fits before c

theorem forall_prefix_concat {P : List Call → Call → Prop} {calls : List Call} {c : Call} :
    (∀ before c', before ++ [c'] <+: calls ++ [c] → P before c') ↔
      (∀ before c', before ++ [c'] <+: calls → P before c') ∧ P calls c := by
  constructor
  · intro h
    exact ⟨fun before c' hc' => h before c' (hc'.trans (List.prefix_append _ _)),
      h calls c List.prefix_rfl⟩
  · rintro ⟨h, hc⟩ before c' hc'
    rcases List.prefix_concat_iff.1 hc' with heq | hpre
    · obtain ⟨rfl, hlast⟩ := List.append_inj' heq rfl
      obtain rfl : c' = c := by simpa using hlast
      exact hc
    · exact h before c' hpre

theorem orderly_concat {calls : List Call} {c : Call} :
    Orderly (calls ++ [c]) ↔ Orderly calls ∧ Fits calls c :=
  forall_prefix_concat

namespace Orderly

variable {calls : List Call} {c : Call}

theorem nil : Orderly [] := by
  intro before c h
  simp at h

theorem of_prefix {before : List Call} (h : Orderly calls) (hpre : before <+: calls) :
    Orderly before :=
  fun earlier c hc => h earlier c (hc.trans hpre)

theorem lt_of_track (h : Orderly (calls ++ [c])) (hc : c.slot? = none) :
    ∀ o ∈ tracked c.home calls, o < c.offset := by
  have hfits := (orderly_concat.1 h).2
  rwa [Fits, hc] at hfits

theorem of_settle (h : Orderly (calls ++ [c])) {slot : Slot} (hc : c.slot? = some slot) :
    c.offset ∈ tracked c.home calls ∧ c.offset ∉ settled c.home calls := by
  have hfits := (orderly_concat.1 h).2
  rwa [Fits, hc] at hfits

theorem ascending (h : Orderly calls) (p : Partition) :
    (tracked p calls).Pairwise (· < ·) := by
  induction calls using List.reverseRecOn with
  | nil => exact List.Pairwise.nil
  | append_singleton calls c ih =>
      have hbefore := ih (orderly_concat.1 h).1
      rw [tracked, offsets_concat]
      split
      · rename_i hc
        have hslot : c.slot? = none := Option.isNone_iff_eq_none.1 hc.1
        refine List.pairwise_append.2 ⟨hbefore, List.pairwise_singleton _ _, ?_⟩
        intro o ho o' ho'
        rw [List.mem_singleton.1 ho']
        exact h.lt_of_track hslot o (hc.2 ▸ ho)
      · rwa [List.append_nil]

theorem settled_subset_tracked (h : Orderly calls) (p : Partition) :
    settled p calls ⊆ tracked p calls := by
  induction calls using List.reverseRecOn with
  | nil => exact List.Subset.refl _
  | append_singleton calls c ih =>
      intro o ho
      rcases mem_offsets_concat.1 ho with ho | ⟨⟨hc, rfl⟩, rfl⟩
      · exact mem_offsets_concat.2 (.inl (ih (orderly_concat.1 h).1 ho))
      · obtain ⟨slot, hslot⟩ := Option.isSome_iff_exists.1 hc
        exact mem_offsets_concat.2 (.inl (h.of_settle hslot).1)

end Orderly

theorem not_settled_of_track {calls : List Call} {c : Call} (h : Orderly (calls ++ [c]))
    (hc : c.slot? = none) : c.offset ∉ settled c.home calls := fun hset =>
  lt_irrefl _ (h.lt_of_track hc _
    ((orderly_concat.1 h).1.settled_subset_tracked _ hset))

instance (calls : List Call) : Decidable (Orderly calls) :=
  decidable_of_iff (∀ i, (h : i < calls.length) → Fits (calls.take i) calls[i]) <| by
    constructor
    · intro h before c hpre
      obtain ⟨rest, rfl⟩ := hpre
      have hfits := h before.length (by simp)
      simpa using hfits
    · intro h i hi
      refine h _ _ ?_
      rw [List.take_concat_get']
      exact List.take_prefix _ _

end Tracker

end ClusterEvents
