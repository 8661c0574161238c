import ClusterEvents.Proofs.Consumer.Accounts
import ClusterEvents.Proofs.Tracker.InFlight

/-!
# Commits that keep the order of the stream

With a tracker, a commit stands for everything before it. The tracker guards each message
that was fetched: the message is handled, or its offset is in flight, and then no commit
reaches it. An offset stays in flight as long as an acknowledgment or an item is on its
way for its message, and also if nothing is and the message is lost.

This takes that offsets ascend along the log and that no partition is ever beyond its
limit, since then the tracker gives up on offsets in flight.
-/

namespace ClusterEvents

/-- The offsets of every partition ascend. -/
def IsAscendingLog (log : List Message) : Prop :=
  log.Pairwise fun m m' => m.home = m'.home → m.offset < m'.offset

instance (log : List Message) : Decidable (IsAscendingLog log) := by
  unfold IsAscendingLog
  infer_instance

namespace IsAscendingLog

variable {log : List Message} {m m' : Message}

theorem eq_of_position (h : IsAscendingLog log) (hm : m ∈ log) (hm' : m' ∈ log)
    (hhome : m.home = m'.home) (hoffset : m.offset = m'.offset) : m = m' := by
  induction log with
  | nil => cases hm
  | cons first rest ih =>
      obtain ⟨hfirst, hrest⟩ := List.pairwise_cons.1 h
      rcases List.mem_cons.1 hm with heq | hrest₁
      · rcases List.mem_cons.1 hm' with heq' | hrest₂
        · exact heq.trans heq'.symm
        · subst heq
          exact absurd hoffset (hfirst m' hrest₂ hhome).ne
      · rcases List.mem_cons.1 hm' with heq' | hrest₂
        · subst heq'
          exact absurd hoffset (hfirst m hrest₁ hhome.symm).ne'
        · exact ih hrest hrest₁ hrest₂

theorem nodup (h : IsAscendingLog log) : log.Nodup := by
  refine h.imp ?_
  rintro m m' hlt rfl
  exact lt_irrefl _ (hlt rfl)

theorem of_append (h : IsAscendingLog (log ++ [m])) (hm' : m' ∈ log)
    (hhome : m'.home = m.home) : m'.offset < m.offset :=
  (List.pairwise_append.1 h).2.2 m' hm' m (List.mem_singleton_self m) hhome

end IsAscendingLog

/-- A commit covers a message. -/
def Commit.Covers (c : Commit) (m : Message) : Prop :=
  m.home = c.message.home ∧ m.offset ≤ c.message.offset

namespace Consumer

variable {σ ε : Type} {w : Wiring σ ε} {plan : Plan σ} {acts : List Act} {act : Act}
  {told new : List (Note σ)} {s u last : Consumer σ ε} {t : Tracker}

/-- No partition holds more offsets than it may keep. -/
def IsWithinLimit (s : Consumer σ ε) : Prop :=
  ∀ t ∈ s.tracker, ∀ p, (t.pending p).length ≤ t.limit

/-- The tracker guards the messages that were fetched. -/
structure Guards (w : Wiring σ ε) (told : List (Note σ)) (s : Consumer σ ε) (t : Tracker) :
    Prop where
  tracker : s.tracker = some t
  sorted : t.IsSorted
  fetched_of_pending : ∀ p, ∀ entry ∈ t.pending p,
    ∃ m ∈ fetched told, m.home = p ∧ m.offset = entry.1
  inFlight_of_custody : ∀ m ∈ custody s, t.IsInFlight m.home m.offset
  handled_or_inFlight : ∀ x ∈ visited told,
    IsHandled w told x ∨ t.IsInFlight x.1.home x.1.offset
  fetched_of_commit : ∀ c ∈ s.commits, ∃ m ∈ fetched told,
    m.home = c.message.home ∧ m.offset = c.message.offset
  handled_of_commit : ∀ c ∈ s.commits, ∀ x ∈ visited told, c.Covers x.1 → IsHandled w told x

theorem fetched_prefix (h : Accounts w plan told s) (hlog : IsAscendingLog plan.log) :
    IsAscendingLog (fetched told) := by
  rw [← h.log] at hlog
  exact (List.pairwise_append.1 hlog).1

theorem eq_of_visited (hlog : IsAscendingLog (fetched told)) {x y : Message × σ}
    (hx : x ∈ visited told) (hy : y ∈ visited told) (hxy : x.1 = y.1) : x = y :=
  List.inj_on_of_nodup_map hlog.nodup hx hy hxy

theorem mem_fetched {x : Message × σ} (hx : x ∈ visited told) : x.1 ∈ fetched told :=
  List.mem_map_of_mem hx

theorem custody_eq_of_still (howed : u.owed = s.owed) (hitems : u.items = s.items) :
    custody u = custody s := by
  rw [custody, custody, howed, hitems]

/-- A report takes its message to another place. -/
theorem custody_subset_of_report {item : Bulk.Item Message} {verdict : Bulk.Verdict}
    (howed : u.owed.Perm (acksOf item verdict ++ s.owed))
    (hitems : s.items.Perm (item :: u.items)) : custody u ⊆ custody s := by
  have hticket : item.ticket ∈ custody s := by
    refine List.mem_append_right _ (List.mem_map_of_mem ?_)
    exact hitems.symm.subset List.mem_cons_self
  intro m hm
  rcases List.mem_append.1 hm with hm | hm
  · obtain ⟨ack, hack, rfl⟩ := List.mem_map.1 hm
    rcases List.mem_append.1 (howed.subset hack) with hnew | hold
    · cases verdict with
      | ok v =>
          obtain rfl := List.mem_singleton.1 hnew
          exact hticket
      | error e => cases hnew
    · exact List.mem_append_left _ (List.mem_map_of_mem hold)
  · obtain ⟨item', hitem', rfl⟩ := List.mem_map.1 hm
    refine List.mem_append_right _ (List.mem_map_of_mem ?_)
    exact hitems.symm.subset (List.mem_cons_of_mem _ hitem')

/-- What a message leads to is about that message. -/
theorem eq_of_mem_disposition (hw : w.IsTicketed) (x : Message × σ) {m : Message}
    (hm : m ∈ ((w.disposition x).acks x.1).map Ack.message ++
      (w.disposition x).items.map (·.ticket)) : m = x.1 :=
  List.mem_singleton.1 ((sublist_singleton hw x).subset hm)

namespace Guards

theorem start (hordering : plan.delivery.ordering = .contiguous) :
    Guards w [] plan.start (Tracker.withLimit plan.delivery.maxPending) where
  tracker := by simp [Plan.start, hordering]
  sorted := Tracker.isSorted_withLimit _
  fetched_of_pending := fun p entry hentry => by cases hentry
  inFlight_of_custody := fun m hm => by cases hm
  handled_or_inFlight := fun x hx => by cases hx
  fetched_of_commit := fun c hc => by cases hc
  handled_of_commit := fun c hc => by cases hc

/-- What is guarded stays guarded as long as tracker and commits stay. -/
theorem frame (h : Guards w told s t) (hframe : Frame s u) (hnew : visited new = [])
    (hcustody : custody u ⊆ custody s) : Guards w (told ++ new) u t := by
  have hsame : visited (told ++ new) = visited told := by
    rw [visited_append, hnew, List.append_nil]
  have hfetched : fetched (told ++ new) = fetched told := by rw [fetched, hsame, fetched]
  refine ⟨hframe.tracker.trans h.tracker, h.sorted, ?_, ?_, ?_, ?_, ?_⟩
  · rw [hfetched]
    exact h.fetched_of_pending
  · exact fun m hm => h.inFlight_of_custody m (hcustody hm)
  · rw [hsame]
    exact fun x hx => (h.handled_or_inFlight x hx).imp_left IsHandled.mono
  · rw [hfetched, hframe.commits]
    exact h.fetched_of_commit
  · rw [hsame, hframe.commits]
    exact fun c hc x hx hcovers => (h.handled_of_commit c hc x hx hcovers).mono

/-- What is kept is below a message that is fetched after it. -/
theorem lt_of_pending (h : Guards w told s t) {m : Message}
    (hlog : IsAscendingLog (fetched told ++ [m])) :
    ∀ entry ∈ t.pending m.home, entry.1 < m.offset := by
  intro entry hentry
  obtain ⟨m', hm', hhome, hoffset⟩ := h.fetched_of_pending _ _ hentry
  exact hoffset ▸ hlog.of_append hm' hhome

theorem visit (h : Guards w told s t) (hw : w.IsTicketed) {m : Message}
    (hlog : IsAscendingLog (fetched told ++ [m]))
    (htracker : u.tracker = s.tracker.map fun (t : Tracker) => t.track m)
    (hcommits : u.commits = s.commits)
    (howed : u.owed = s.owed ++ (w.disposition (m, s.state)).acks m)
    (hitems : u.items = s.items ++ (w.disposition (m, s.state)).items) :
    Guards w (told ++ [.processed m s.state]) u (t.track m) := by
  have hvisited : visited (told ++ [.processed m s.state]) = visited told ++ [(m, s.state)] :=
    visited_append _ _
  have hfetched : fetched (told ++ [.processed m s.state]) = fetched told ++ [m] :=
    fetched_append _ _
  have hbelow := h.lt_of_pending hlog
  have hold : ∀ p o, t.IsInFlight p o → (t.track m).IsInFlight p o := fun p o ho =>
    (Tracker.mem_pending_track hbelow).2 (.inl ho)
  have hnew : (t.track m).IsInFlight m.home m.offset :=
    (Tracker.mem_pending_track hbelow).2 (.inr ⟨rfl, rfl⟩)
  refine ⟨?_, h.sorted.track m, ?_, ?_, ?_, ?_, ?_⟩
  · rw [htracker, h.tracker, Option.map_some]
  · intro p entry hentry
    rw [hfetched]
    rcases (Tracker.mem_pending_track hbelow).1 hentry with hentry | ⟨rfl, rfl⟩
    · obtain ⟨m', hm', hposition⟩ := h.fetched_of_pending p entry hentry
      exact ⟨m', List.mem_append_left _ hm', hposition⟩
    · exact ⟨m, List.mem_append_right _ (List.mem_singleton_self m), rfl, rfl⟩
  · intro m' hm'
    rw [custody, howed, hitems, List.map_append, List.map_append] at hm'
    have hor : m' ∈ custody s ∨ m' = m := by
      rcases List.mem_append.1 hm' with hack | hitem
      · rcases List.mem_append.1 hack with hack | hack
        · exact .inl (List.mem_append_left _ hack)
        · exact .inr (eq_of_mem_disposition hw (m, s.state) (List.mem_append_left _ hack))
      · rcases List.mem_append.1 hitem with hitem | hitem
        · exact .inl (List.mem_append_right _ hitem)
        · exact .inr (eq_of_mem_disposition hw (m, s.state) (List.mem_append_right _ hitem))
    rcases hor with hcustody | rfl
    · exact hold _ _ (h.inFlight_of_custody m' hcustody)
    · exact hnew
  · intro x hx
    rw [hvisited] at hx
    rcases List.mem_append.1 hx with hx | hx
    · exact (h.handled_or_inFlight x hx).imp IsHandled.mono (hold _ _)
    · obtain rfl := List.mem_singleton.1 hx
      exact .inr hnew
  · intro c hc
    rw [hcommits] at hc
    obtain ⟨m', hm', hposition⟩ := h.fetched_of_commit c hc
    exact ⟨m', hfetched ▸ List.mem_append_left _ hm', hposition⟩
  · intro c hc x hx hcovers
    rw [hcommits] at hc
    rw [hvisited] at hx
    rcases List.mem_append.1 hx with hx | hx
    · exact (h.handled_of_commit c hc x hx hcovers).mono
    · -- a new message is above all that was committed on its partition
      obtain rfl := List.mem_singleton.1 hx
      obtain ⟨m', hm', hhome, hoffset⟩ := h.fetched_of_commit c hc
      have hlt := hlog.of_append hm' (hhome.trans hcovers.1.symm)
      exact absurd (hoffset ▸ hcovers.2) (not_le.2 hlt)

theorem settle_contiguous (htracker : s.tracker = some t) (ack : Ack) :
    (s.settle w ack).tracker = some (t.settle ack.message ack.slot).2 ∧
      (s.settle w ack).commits = s.commits ++
        (t.settle ack.message ack.slot).1.toList.map fun m => ⟨m, !w.refuses m⟩ := by
  cases hready : (t.settle ack.message ack.slot).1 with
  | none => simp [settle, htracker, hready]
  | some m => simp [settle, commitMessage, htracker, hready]

/-- An acknowledgment that is settled leaves all other messages in flight, and a commit
is below those. -/
theorem commit (h : Guards w told s t) (haccounts : Accounts w plan told s)
    (hw : w.IsTicketed) (hlog : IsAscendingLog (fetched told)) (hfits : s.IsWithinLimit)
    {ack : Ack} (htracker : u.tracker = (s.settle w ack).tracker)
    (hcommits : u.commits = (s.settle w ack).commits) (howed : s.owed = ack :: u.owed)
    (hitems : u.items = s.items) :
    Guards w told u (t.settle ack.message ack.slot).2 := by
  obtain ⟨htracker', hcommits'⟩ := settle_contiguous (w := w) h.tracker ack
  have hcustody : custody s = ack.message :: custody u := by
    rw [custody, custody, howed, hitems]
    rfl
  have hsub := haccounts.custody_subperm hw
  have hnodup : (custody s).Nodup := by
    obtain ⟨l, hperm, hsublist⟩ := hsub
    exact hperm.nodup_iff.1 (hlog.nodup.sublist hsublist)
  have hack : ack.message ∈ custody s := hcustody ▸ List.mem_cons_self
  have hflight := h.inFlight_of_custody _ hack
  have hmem : ack.message.offset ∈ (t.pending ack.message.home).map Prod.fst :=
    List.mem_map_of_mem hflight
  have hlen := hfits t h.tracker ack.message.home
  -- only the message itself stands at its position
  have hother : ∀ m ∈ fetched told, m ≠ ack.message → m.home = ack.message.home →
      m.offset ≠ ack.message.offset := fun m hm hne hhome hoffset =>
    hne (hlog.eq_of_position hm (hsub.subset hack) hhome hoffset)
  have hhandled : ∀ x ∈ visited told, IsHandled w told x ∨
      (t.settle ack.message ack.slot).2.IsInFlight x.1.home x.1.offset := by
    intro x hx
    rcases h.handled_or_inFlight x hx with hdone | hwaits
    · exact .inl hdone
    · by_cases hsame : x.1 = ack.message
      · have hfirst : ack ∈ s.owed := howed ▸ List.mem_cons_self
        obtain ⟨y, hy, hmessage, hdone⟩ := haccounts.isHandled_of_owed hw hfirst
        have heq := eq_of_visited hlog hx hy (hsame.trans hmessage.symm)
        exact .inl (heq ▸ hdone)
      · exact .inr (hwaits.settle h.sorted hmem hlen
          (hother _ (mem_fetched hx) hsame))
  refine ⟨htracker.trans htracker', h.sorted.settle, ?_, ?_, hhandled, ?_, ?_⟩
  · intro p entry hentry
    obtain ⟨entry', hentry', hfst⟩ :=
      List.mem_map.1 (Tracker.fst_mem_of_settle h.sorted hmem hentry)
    exact hfst ▸ h.fetched_of_pending p entry' hentry'
  · intro m hm
    have hin : m ∈ custody s := hcustody ▸ List.mem_cons_of_mem _ hm
    have hne : m ≠ ack.message := by
      rw [hcustody] at hnodup
      rintro rfl
      exact (List.nodup_cons.1 hnodup).1 hm
    exact (h.inFlight_of_custody m hin).settle h.sorted hmem hlen
      (hother m (hsub.subset hin) hne)
  · intro c hc
    rw [hcommits, hcommits'] at hc
    rcases List.mem_append.1 hc with hc | hc
    · exact h.fetched_of_commit c hc
    · obtain ⟨m, hready, rfl⟩ := List.mem_map.1 hc
      obtain ⟨hhome, hoffset⟩ :=
        Tracker.offset_mem_of_ready h.sorted hmem (Option.mem_toList.1 hready)
      obtain ⟨entry, hentry, hfst⟩ := List.mem_map.1 hoffset
      obtain ⟨m', hm', hhome', hoffset'⟩ := h.fetched_of_pending _ _ hentry
      exact ⟨m', hm', hhome'.trans hhome.symm, hoffset'.trans hfst⟩
  · intro c hc x hx hcovers
    rw [hcommits, hcommits'] at hc
    rcases List.mem_append.1 hc with hc | hc
    · exact h.handled_of_commit c hc x hx hcovers
    · obtain ⟨m, hready, rfl⟩ := List.mem_map.1 hc
      refine (hhandled x hx).resolve_right fun hwaits => ?_
      have hhome := (Tracker.offset_mem_of_ready h.sorted hmem
        (Option.mem_toList.1 hready)).1
      rw [hcovers.1, hhome] at hwaits
      have hlt := Tracker.lt_of_ready h.sorted hmem hlen (Option.mem_toList.1 hready) hwaits
      exact absurd hcovers.2 (not_le.2 hlt)

end Guards

/-- Every message that was fetched is guarded in every run within the limit. -/
theorem guards_of_follow (hw : w.IsTicketed) (hordering : plan.delivery.ordering = .contiguous)
    (hlog : IsAscendingLog plan.log)
    (hfits : ∀ before told' s, before <+: acts →
      follow? w before plan.start = some (told', s) → s.IsWithinLimit)
    (h : follow? w acts plan.start = some (told, last)) : ∃ t, Guards w told last t := by
  refine effect_induction (P := fun acts' told' s =>
    acts' <+: acts → ∃ t, Guards w told' s t) ?_ ?_ h List.prefix_rfl
  · exact fun _ => ⟨_, .start hordering⟩
  · intro acts' told' s act new u hfollow ih _ heffect hpre
    have hpre' : acts' <+: acts := (List.prefix_append _ _).trans hpre
    obtain ⟨t, hguards⟩ := ih hpre'
    have haccounts := accounts_of_follow hfollow
    have hfetched := fetched_prefix haccounts hlog
    cases heffect with
    | still frame owed items =>
        exact ⟨t, hguards.frame frame rfl (List.Perm.of_eq (custody_eq_of_still owed items)).subset⟩
    | processed unfetched tracker commits fatal owed items =>
        refine ⟨_, hguards.visit hw ?_ tracker commits owed items⟩
        have hrest := haccounts.log
        rw [unfetched, List.append_cons] at hrest
        rw [← hrest] at hlog
        exact (List.pairwise_append.1 hlog).1
    | settled frame owed items =>
        refine ⟨t, hguards.frame frame rfl (custody_subset_of_report owed ?_)⟩
        exact List.Perm.of_eq items
    | reported frame owed items =>
        exact ⟨t, hguards.frame frame rfl (custody_subset_of_report owed items)⟩
    | committed unfetched tracker commits fatal owed items =>
        rw [List.append_nil]
        exact ⟨_, hguards.commit haccounts hw hfetched (hfits _ _ _ hpre' hfollow) tracker
          commits owed items⟩

end Consumer

end ClusterEvents
