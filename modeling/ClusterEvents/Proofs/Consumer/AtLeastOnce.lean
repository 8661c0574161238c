import ClusterEvents.Proofs.Consumer.Guards
import ClusterEvents.Proofs.Consumer.Wirings

/-!
# Nothing is committed before it is handled

When commits keep the order of the stream, a commit says that everything before it on its
partition has been dealt with. This is so in every run of a projection, in whatever order
items are stored or rejected and whenever the commit loop gets to its acknowledgments, as
long as no partition is beyond its limit. A message whose document is rejected, or that the
reader stopped at, holds back its partition for good.
-/

namespace ClusterEvents

open Consumer

/-- A message was handled, as far as one can tell from the notes of a run. -/
inductive Projection.Handles {σ : Type} (p : Projection) (u : Projection.Context σ)
    (told : List (Note σ)) (x : Message × σ) : Prop
  /-- It tells the state of an entity, which was written to the snapshots. -/
  | written {change : StateChange} (h : x.1.LeadsTo (.change change))
      (hwritten : (p.outcome u x).written = some change)
  | undecodable (h : x.1.IsUndecodable)
  | malformed (h : x.1.IsMalformed)
  /-- It is an activity on a cluster of an excluded user. -/
  | leftOut (h : p.LeavesOut (u.helpers x.1 x.2) x.1)
  /-- It is an activity, and its document was reported as stored. -/
  | stored {item : Bulk.Item Message} (h : (p.outcome u x).disposition = .queued item)
      (hstored : (item, .ok ()) ∈ reports told)

namespace Consumer

variable {σ ε : Type} {w : Wiring σ ε} {plan : Plan σ} {acts : List Act}
  {told : List (Note σ)} {last : Consumer σ ε} {t : Tracker}

theorem Accounts.not_isHandled_of_error (h : Accounts w plan told last) (hw : w.IsTicketed)
    (hlog : IsAscendingLog (fetched told)) {item : Bulk.Item Message} {e : BulkError}
    (hreport : (item, .error e) ∈ reports told) :
    ∃ x ∈ visited told, x.1 = item.ticket ∧ ¬ IsHandled w told x := by
  have hqueued : item ∈ queued w told :=
    h.items.subset (List.mem_append_left _ (List.mem_map_of_mem hreport))
  obtain ⟨x, hx, hitem⟩ := List.mem_flatMap.1 hqueued
  refine ⟨x, hx, (hw x item hitem).symm, fun hhandled => ?_⟩
  -- the item is reported once, and it was rejected
  have hnodup : ((reports told).map Prod.fst).Nodup := by
    have htickets := hlog.nodup.sublist (Accounts.queued_sublist hw told)
    have hall := h.items.nodup_iff.2 htickets.of_map
    exact (List.nodup_append.1 hall).1
  unfold IsHandled at hhandled
  cases hd : w.disposition x with
  | queued item' =>
      rw [hd] at hitem hhandled
      obtain rfl := List.mem_singleton.1 hitem
      have heq := List.inj_on_of_nodup_map hnodup hreport hhandled rfl
      cases heq
  | _ =>
      rw [hd] at hitem
      cases hitem

theorem Accounts.not_isHandled_of_fatal (h : Accounts w plan told last) {e : ε}
    (hfatal : last.phase.fatal? = some e) :
    ∃ x ∈ (visited told).getLast?, ¬ IsHandled w told x := by
  obtain ⟨x, hx, herror⟩ := h.fatal_last e hfatal
  refine ⟨x, hx, fun hhandled => ?_⟩
  unfold IsHandled at hhandled
  cases hd : w.disposition x with
  | failed e' =>
      rw [hd] at hhandled
      exact hhandled
  | _ =>
      rw [hd] at herror
      cases herror

theorem Guards.not_covers (h : Guards w told last t) {x : Message × σ}
    (hx : x ∈ visited told) (hnot : ¬ IsHandled w told x) :
    ∀ c ∈ last.commits, ¬ c.Covers x.1 := fun c hc hcovers =>
  hnot (h.handled_of_commit c hc x hx hcovers)

end Consumer

namespace Projection

variable {σ : Type} {p : Projection} {u : Context σ} {answers : Nat → Bulk.Answer}
  {refuses : Message → Bool} {told : List (Note σ)} {x : Message × σ}

theorem handles_of_isHandled (h : IsHandled (p.wiring u answers refuses) told x) :
    p.Handles u told x := by
  unfold IsHandled at h
  rw [disposition_wiring] at h
  cases hd : (p.outcome u x).disposition with
  | done =>
      rcases disposition_eq_done_iff.1 hd with
        hundecodable | hmalformed | ⟨change, hchange, hwritten⟩
      · exact .undecodable hundecodable
      · exact .malformed hmalformed
      · exact .written hchange hwritten
  | skipped => exact .leftOut (disposition_eq_skipped_iff.1 hd)
  | queued item =>
      rw [hd] at h
      exact .stored hd h
  | held =>
      rw [hd] at h
      cases h
  | failed e =>
      rw [hd] at h
      cases h

/-- What a commit covers has been handled, in every run within the limit. What was
rejected, or stopped the reader, is never covered. -/
theorem commits_cover_handled (p : Projection) (u : Context σ)
    (answers : Nat → Bulk.Answer) (refuses : Message → Bool) (plan : Plan σ)
    (hordering : plan.delivery.ordering = .contiguous) (hlog : IsAscendingLog plan.log)
    (acts : List Act) (told : List (Note σ)) (last : Consumer σ ProjectionError)
    (hrun : follow? (p.wiring u answers refuses) acts plan.start = some (told, last))
    (hfits : ∀ before told' s, before <+: acts →
      follow? (p.wiring u answers refuses) before plan.start = some (told', s) →
      s.IsWithinLimit) :
    fetched told ++ last.unfetched = plan.log ∧
      (∀ c ∈ last.commits, ∀ x ∈ visited told, c.Covers x.1 → p.Handles u told x) ∧
      (∀ item e, (item, .error e) ∈ reports told →
        ∀ c ∈ last.commits, ¬ c.Covers item.ticket) ∧
      (∀ e, last.phase.result? = some (.error (.process e)) →
        ∃ x ∈ (visited told).getLast?, ∀ c ∈ last.commits, ¬ c.Covers x.1) := by
  have hw := isTicketed_wiring p u answers refuses
  have haccounts := accounts_of_follow hrun
  have hfetched := fetched_prefix haccounts hlog
  obtain ⟨t, hguards⟩ := guards_of_follow hw hordering hlog hfits hrun
  refine ⟨haccounts.log, ?_, ?_, ?_⟩
  · intro c hc x hx hcovers
    exact handles_of_isHandled (hguards.handled_of_commit c hc x hx hcovers)
  · intro item e hreport
    obtain ⟨x, hx, hticket, hnot⟩ := haccounts.not_isHandled_of_error hw hfetched hreport
    exact hticket ▸ hguards.not_covers hx hnot
  · intro e hresult
    have hfatal := Phase.fatal?_eq_some_iff.2 hresult
    obtain ⟨x, hx, hnot⟩ := haccounts.not_isHandled_of_fatal hfatal
    exact ⟨x, hx, hguards.not_covers (List.mem_of_getLast? hx) hnot⟩

section Run

/-- Something that is no event, an activity, and the state of a cluster. -/
def mixture : Plan SnapshotStore where
  log := [letter 0 "",
    letter 1 "\x7b\"name\":\"Event\",\"payload\":\x7b\"cluster_id\":\"c\"\x7d\x7d",
    letter 2 "\x7b\"name\":\"ClusterState\",\"payload\":\x7b\"id\":\"c\"\x7d\x7d"]
  state := .memory { expiration := ⟨0⟩ }
  delivery := { ordering := .contiguous, maxPending := 3 }

/-- All messages are processed, and the commit loop settles what it can, before the
document is sent. -/
def beforeSending : List Act :=
  [Move.read, .read, .read, .read, .read, .read, .commit, .commit].map .move

/-- A document that is on its way holds back what comes after it. -/
theorem commits_before_sending :
    ∃ told last,
      follow? (wiring {} .memory (fun _ => .lost "") fun _ => false) beforeSending
        mixture.start = some (told, last) ∧
      last.commits.map (·.message.offset) = [0] ∧
      ∀ x ∈ visited told, x.1.offset ≤ 0 → Handles {} .memory told x := by
  have hsome : (follow? (wiring {} .memory (fun _ => .lost "") fun _ => false) beforeSending
      mixture.start).isSome := by decide +kernel
  have hends : ∀ run ∈ follow? (wiring {} .memory (fun _ => .lost "") fun _ => false)
      beforeSending mixture.start, run.2.commits.map (·.message.offset) = [0] ∧
        ∀ x ∈ visited run.1, x.1.offset ≤ 0 → ∃ c ∈ run.2.commits,
          x.1.home = c.message.home ∧ x.1.offset ≤ c.message.offset := by decide +kernel
  have hsmall : ∀ acts ∈ beforeSending.inits, ∀ run ∈ follow? (wiring {} .memory
      (fun _ => .lost "") fun _ => false) acts mixture.start, ∀ t ∈ run.2.tracker,
        ∀ entry ∈ t.partitions, entry.2.length ≤ t.limit := by decide +kernel
  obtain ⟨⟨told, last⟩, hrun⟩ := Option.isSome_iff_exists.1 hsome
  obtain ⟨hcommits, hcovered⟩ := hends _ hrun
  obtain ⟨-, hhandled, -, -⟩ := commits_cover_handled {} .memory (fun _ => .lost "")
    (fun _ => false) mixture rfl (by decide) beforeSending told last hrun
    fun acts told' s hpre hbefore t ht p =>
      t.length_pending_le (hsmall acts ((List.mem_inits _ _).2 hpre) _ hbefore t ht) p
  refine ⟨told, last, hrun, hcommits, fun x hx hle => ?_⟩
  obtain ⟨c, hc, hcovers⟩ := hcovered x hx hle
  exact hhandled c hc x hx hcovers

end Run

end Projection

end ClusterEvents
