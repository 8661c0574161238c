import ClusterEvents.Proofs.Tracker.History

/-!
# The slots that a history gives to offsets

In an orderly history an offset is settled at most once, so the history alone says which
slot it has: `slotOf`. `slotted` writes a list of offsets down as the entries of a
partition. A tracker that is asked to track or to settle an offset puts it exactly where
the longer history has it, which is what lets the theorems on trackers speak of histories.
-/

namespace ClusterEvents.Tracker

open Pending

/-- What a history says of an offset of a partition. -/
def slotOf (p : Partition) (calls : List Call) (o : Int) : Slot :=
  if o ∈ acknowledged p calls then .acknowledged
  else if o ∈ settled p calls then .skipped
  else .inFlight

/-- Offsets of a partition with their slots. -/
def slotted (p : Partition) (calls : List Call) (offsets : List Int) : Pending :=
  offsets.map fun o => (o, slotOf p calls o)

variable {p : Partition} {calls : List Call} {c : Call}

@[simp] theorem map_fst_slotted (offsets : List Int) :
    (slotted p calls offsets).map Prod.fst = offsets := by
  simp [slotted, Function.comp_def]

@[simp] theorem length_slotted (offsets : List Int) :
    (slotted p calls offsets).length = offsets.length :=
  List.length_map _

theorem slotted_append (l₁ l₂ : List Int) :
    slotted p calls (l₁ ++ l₂) = slotted p calls l₁ ++ slotted p calls l₂ :=
  List.map_append

theorem forall_slotted {P : Int → Prop} {offsets : List Int} (h : ∀ o ∈ offsets, P o) :
    ∀ entry ∈ slotted p calls offsets, P entry.1 := by
  intro entry hentry
  obtain ⟨o, ho, rfl⟩ := List.mem_map.1 hentry
  exact h o ho

theorem isAscending_slotted {offsets : List Int} (h : offsets.Pairwise (· < ·)) :
    IsAscending (slotted p calls offsets) :=
  List.pairwise_map.2 h

theorem slotOf_eq_inFlight {o : Int} :
    slotOf p calls o = .inFlight ↔ o ∉ settled p calls := by
  rw [slotOf]
  split
  · rename_i hack
    simp [acknowledged_subset_settled p calls hack]
  · split
    · rename_i hset
      simp [hset]
    · rename_i hset
      simp [hset]

theorem slotOf_eq_acknowledged {o : Int} :
    slotOf p calls o = .acknowledged ↔ o ∈ acknowledged p calls := by
  rw [slotOf]
  split
  · rename_i hack
    simp [hack]
  · rename_i hack
    split <;> simp [hack]

theorem isSettled_slotOf (o : Int) :
    isSettled (o, slotOf p calls o) = decide (o ∈ settled p calls) := by
  simp [isSettled, slotOf_eq_inFlight]

/-- The last acknowledged one of some offsets. -/
theorem lastAcknowledged_slotted (offsets : List Int) :
    lastAcknowledged (slotted p calls offsets) =
      (offsets.filter (· ∈ acknowledged p calls)).getLast? := by
  have hkind : ((fun entry : Int × Slot => decide (entry.2 = .acknowledged)) ∘
      fun o => (o, slotOf p calls o)) = fun o => decide (o ∈ acknowledged p calls) := by
    funext o
    simp [slotOf_eq_acknowledged]
  rw [lastAcknowledged, slotted, List.filter_map, hkind, List.getLast?_map, Option.map_map]
  exact congrFun Option.map_id _

/-! ## One call more -/

theorem slotOf_concat {o : Int} (h : ¬ (c.slot?.isSome ∧ c.home = p ∧ o = c.offset)) :
    slotOf p (calls ++ [c]) o = slotOf p calls o := by
  have hsame : ∀ kind : Option Slot → Bool, (kind c.slot? → c.slot?.isSome) →
      (o ∈ offsets kind p (calls ++ [c]) ↔ o ∈ offsets kind p calls) := by
    intro kind hkind
    rw [mem_offsets_concat]
    exact or_iff_left fun hc => h ⟨hkind hc.1.1, hc.1.2, hc.2⟩
  refine if_congr (hsame _ fun hk => ?_) rfl (if_congr (hsame _ id) rfl rfl)
  rw [beq_iff_eq.1 hk]
  rfl

theorem slotOf_concat_self {slot : Slot} (hc : c.slot? = some slot)
    (hnot : c.offset ∉ settled c.home calls) :
    slotOf c.home (calls ++ [c]) c.offset = slot := by
  have hnack : c.offset ∉ acknowledged c.home calls :=
    fun h => hnot (acknowledged_subset_settled _ _ h)
  cases c with
  | track m => cases hc
  | acknowledge m =>
      cases hc
      exact slotOf_eq_acknowledged.2 (mem_offsets_concat.2 (.inr ⟨⟨rfl, rfl⟩, rfl⟩))
  | skip m =>
      cases hc
      have hack : Call.offset (.skip m) ∉ acknowledged m.home (calls ++ [.skip m]) := by
        intro h
        rcases mem_offsets_concat.1 h with h | ⟨⟨h, -⟩, -⟩
        · exact hnack h
        · cases h
      have hset : Call.offset (.skip m) ∈ settled m.home (calls ++ [.skip m]) :=
        mem_offsets_concat.2 (.inr ⟨⟨rfl, rfl⟩, rfl⟩)
      exact (if_neg hack).trans (if_pos hset)

theorem slotted_concat {offsets : List Int}
    (h : ∀ o ∈ offsets, ¬ (c.slot?.isSome ∧ c.home = p ∧ o = c.offset)) :
    slotted p (calls ++ [c]) offsets = slotted p calls offsets :=
  List.map_congr_left fun o ho => by rw [slotOf_concat (h o ho)]

theorem slotted_concat_of_track (hc : c.slot? = none) (offsets : List Int) :
    slotted p (calls ++ [c]) offsets = slotted p calls offsets :=
  slotted_concat fun _ _ h => by simp [hc] at h

theorem slotted_concat_of_home_ne (hp : p ≠ c.home) (offsets : List Int) :
    slotted p (calls ++ [c]) offsets = slotted p calls offsets :=
  slotted_concat fun _ _ h => hp h.2.1.symm

theorem slotted_concat_of_not_mem {offsets : List Int} (hnot : c.offset ∉ offsets) :
    slotted p (calls ++ [c]) offsets = slotted p calls offsets :=
  slotted_concat fun _ ho h => hnot (h.2.2 ▸ ho)

theorem put_slotted_of_track {offsets : List Int} (hc : c.slot? = none)
    (habove : ∀ o ∈ offsets, o < c.offset) (hnot : c.offset ∉ settled c.home calls) :
    Ascending.put c.offset .inFlight (slotted c.home calls offsets) =
      slotted c.home (calls ++ [c]) (offsets ++ [c.offset]) := by
  have hslot : slotOf c.home calls c.offset = .inFlight := slotOf_eq_inFlight.2 hnot
  rw [put_eq_concat _ (forall_slotted habove), slotted_concat_of_track hc, slotted_append,
    ← hslot]
  rfl

theorem put_slotted_of_settle {offsets : List Int} {slot : Slot} (hc : c.slot? = some slot)
    (hnot : c.offset ∉ settled c.home calls) (hasc : offsets.Pairwise (· < ·))
    (hmem : c.offset ∈ offsets) :
    Ascending.put c.offset slot (slotted c.home calls offsets) =
      slotted c.home (calls ++ [c]) offsets := by
  have hkeys : c.offset ∈ (slotted c.home calls offsets).map Prod.fst := by
    rwa [map_fst_slotted]
  rw [put_eq_map _ (isAscending_slotted hasc) hkeys, slotted, slotted, List.map_map]
  refine List.map_congr_left fun o _ => ?_
  by_cases ho : o = c.offset
  · rw [ho, slotOf_concat_self hc hnot]
    exact if_pos rfl
  · rw [slotOf_concat fun h => ho h.2.2]
    exact if_neg ho

end ClusterEvents.Tracker
