import ClusterEvents.Proofs.Consumer.Deliveries
import ClusterEvents.Proofs.Consumer.OneDisposition
import ClusterEvents.Proofs.Consumer.Progress

/-!
# What is committed when everything has come to its end

Without a tracker each acknowledgment is committed by itself. When the reader has come to
its end, the indexer is closed and the commit loop has stopped, nothing is owed any more,
and each document was sent and reported as the store decided. So exactly those messages
were committed, and once each, that were carried out, or can never be, or whose documents
the store has taken.
-/

namespace ClusterEvents

/-- The message of an acknowledgment that leads to a commit. -/
def Ack.done? : Ack → Option Message
  | .done m => some m
  | .skipped _ => none

namespace Consumer

variable {σ ε : Type} {w : Wiring σ ε} {plan : Plan σ} {acts : List Act}
  {told : List (Note σ)} {s last : Consumer σ ε}

theorem settle_immediate (htracker : s.tracker = none) (ack : Ack) :
    (s.settle w ack).tracker = none ∧
      (s.settle w ack).commits = s.commits ++
        ack.done?.toList.map fun m => ⟨m, !w.refuses m⟩ := by
  cases ack <;> simp [settle, commitMessage, htracker, Ack.done?]

/-- What was committed and what is owed make up for what is due. -/
structure Pays (w : Wiring σ ε) (told : List (Note σ)) (s : Consumer σ ε) : Prop where
  tracker : s.tracker = none
  paid : (s.commits.map (·.message) ++ s.owed.filterMap Ack.done?).Perm
    ((due w told).filterMap Ack.done?)
  accepted : ∀ c ∈ s.commits, c.accepted = !w.refuses c.message

namespace Pays

variable {t : Consumer σ ε} {new : List (Note σ)}

/-- What is newly due is owed. -/
theorem due (h : Pays w told s) (htracker : t.tracker = s.tracker)
    (hcommits : t.commits = s.commits) (howed : t.owed.Perm (s.owed ++ Consumer.due w new)) :
    Pays w (told ++ new) t := by
  refine ⟨htracker.trans h.tracker, ?_, hcommits ▸ h.accepted⟩
  rw [hcommits, due_append, List.filterMap_append]
  have hsplit := howed.filterMap Ack.done?
  rw [List.filterMap_append] at hsplit
  refine (hsplit.append_left _).trans ?_
  rw [← List.append_assoc]
  exact h.paid.append_right _

/-- What is owed first is paid. -/
theorem pay (h : Pays w told s) {ack : Ack} (htracker : t.tracker = (s.settle w ack).tracker)
    (hcommits : t.commits = (s.settle w ack).commits) (howed : s.owed = ack :: t.owed) :
    Pays w told t := by
  obtain ⟨hnone, hnew⟩ := settle_immediate (w := w) h.tracker ack
  have hmessages : t.commits.map (·.message) = s.commits.map (·.message) ++ ack.done?.toList := by
    rw [hcommits, hnew, List.map_append, List.map_map]
    exact congrArg _ (List.map_id _)
  have hfirst : s.owed.filterMap Ack.done? = ack.done?.toList ++ t.owed.filterMap Ack.done? := by
    rw [howed]
    cases ack <;> rfl
  refine ⟨htracker.trans hnone, ?_, fun c hc => ?_⟩
  · rw [hmessages, List.append_assoc, ← hfirst]
    exact h.paid
  · rw [hcommits, hnew] at hc
    rcases List.mem_append.1 hc with hc | hc
    · exact h.accepted c hc
    · obtain ⟨m, -, rfl⟩ := List.mem_map.1 hc
      rfl

end Pays

theorem pays_of_follow (hordering : plan.delivery.ordering = .immediate)
    (h : follow? w acts plan.start = some (told, last)) : Pays w told last := by
  refine effect_induction (P := fun _ told s => Pays w told s) ?_ ?_ h
  · refine ⟨?_, List.Perm.refl _, fun c hc => by cases hc⟩
    simp [Plan.start, hordering]
  · intro acts told s act new t _ hs _ heffect
    cases heffect with
    | still frame owed items =>
        refine hs.due frame.tracker frame.commits ?_
        rw [owed]
        exact List.Perm.of_eq (List.append_nil _).symm
    | processed unfetched tracker commits fatal owed items =>
        rw [hs.tracker] at tracker
        refine hs.due (tracker.trans hs.tracker.symm) commits ?_
        rw [owed, due_processed]
        exact List.Perm.refl _
    | settled frame owed items =>
        refine hs.due frame.tracker frame.commits (owed.trans ?_)
        rw [due_reported]
        exact List.perm_append_comm
    | reported frame owed items =>
        refine hs.due frame.tracker frame.commits (owed.trans ?_)
        rw [due_reported]
        exact List.perm_append_comm
    | committed unfetched tracker commits fatal owed items =>
        rw [List.append_nil]
        exact hs.pay tracker commits owed

/-! ## What is decided on each message -/

/-- Each message with what is decided on its item, if it led to one; decisions come in the
order of the messages. -/
def withDecisions (w : Wiring σ ε) : List (Message × σ) → List Bool →
    List ((Message × σ) × Option Bool)
  | [], _ => []
  | x :: rest, decisions =>
    match w.disposition x with
    | .queued _ => (x, decisions.head?) :: withDecisions w rest decisions.tail
    | _ => (x, none) :: withDecisions w rest decisions

/-- Whether a message is to be committed, given what is decided on its item. -/
def isCredited (w : Wiring σ ε) (x : Message × σ) (decision? : Option Bool) : Bool :=
  match w.disposition x, decision? with
  | .done, _ => true
  | .queued _, some stored => stored
  | _, _ => false

theorem isCredited_eq_true_iff {x : Message × σ} {decision? : Option Bool} :
    isCredited w x decision? = true ↔
      w.disposition x = .done ∨
        (∃ item, w.disposition x = .queued item) ∧ decision? = some true := by
  cases hd : w.disposition x <;> cases decision? <;> simp [isCredited, hd]

/-- The messages that are to be committed. -/
def credited (w : Wiring σ ε) (visits : List (Message × σ)) (decisions : List Bool) :
    List Message :=
  ((withDecisions w visits decisions).filter fun visit => isCredited w visit.1 visit.2).map
    (·.1.1)

theorem credited_cons_of_done {x : Message × σ} (hd : w.disposition x = .done)
    (rest : List (Message × σ)) (decisions : List Bool) :
    credited w (x :: rest) decisions = x.1 :: credited w rest decisions := by
  simp [credited, withDecisions, isCredited, hd]

theorem credited_cons_of_queued {x : Message × σ} {item : Bulk.Item Message}
    (hd : w.disposition x = .queued item) (rest : List (Message × σ)) (stored : Bool)
    (decisions : List Bool) :
    credited w (x :: rest) (stored :: decisions) =
      (if stored then [x.1] else []) ++ credited w rest decisions := by
  cases stored <;> simp [credited, withDecisions, isCredited, hd]

theorem credited_cons_of_other {x : Message × σ} (hd : w.disposition x ≠ .done)
    (hitems : (w.disposition x).items = []) (rest : List (Message × σ))
    (decisions : List Bool) :
    credited w (x :: rest) decisions = credited w rest decisions := by
  cases hx : w.disposition x with
  | done => exact absurd hx hd
  | queued item =>
      rw [hx] at hitems
      cases hitems
  | _ => simp [credited, withDecisions, isCredited, hx]

/-- What is due is for the messages that are to be committed, once all items are
reported. -/
theorem perm_credited (hw : w.IsTicketed) (visits : List (Message × σ))
    (reported : List (Bulk.Item Message × Bulk.Verdict))
    (h : reported.map Prod.fst = visits.flatMap fun x => (w.disposition x).items) :
    (((visits.flatMap fun x => (w.disposition x).acks x.1) ++
        reported.flatMap fun report => acksOf report.1 report.2).filterMap Ack.done?).Perm
      (credited w visits (reported.map fun report => Bulk.Indexer.isGood report.2)) := by
  induction visits generalizing reported with
  | nil =>
      obtain rfl := List.map_eq_nil_iff.1 h
      exact List.Perm.refl _
  | cons x rest ih =>
      rw [List.flatMap_cons] at h ⊢
      cases hd : w.disposition x with
      | done =>
          rw [hd] at h
          rw [credited_cons_of_done hd]
          exact (ih reported h).cons x.1
      | queued item =>
          rw [hd] at h
          have hticket : item.ticket = x.1 := hw x item (hd ▸ List.mem_cons_self)
          cases reported with
          | nil => cases h
          | cons report reported =>
              obtain ⟨item', verdict⟩ := report
              obtain ⟨rfl, hrest⟩ := List.cons.inj h
              rw [List.map_cons, credited_cons_of_queued hd, List.flatMap_cons]
              have hown : (acksOf item' verdict).filterMap Ack.done? =
                  if Bulk.Indexer.isGood verdict then [x.1] else [] := by
                rw [← hticket]
                cases verdict <;> rfl
              have hfirst : (((rest.flatMap fun x => (w.disposition x).acks x.1) ++
                  (acksOf item' verdict ++
                    reported.flatMap fun report => acksOf report.1 report.2)).filterMap
                  Ack.done?).Perm _ :=
                (List.perm_append_comm_assoc _ _ _).filterMap Ack.done?
              rw [← hown]
              refine hfirst.trans ?_
              rw [List.filterMap_append]
              exact (ih reported hrest).append_left _
      | _ =>
          rw [hd] at h
          rw [credited_cons_of_other (by simp [hd]) (by rw [hd]; rfl)]
          exact ih reported h

theorem owed_eq_nil_of_isFinished (h : s.InOrder) (hfinished : s.isFinished = true) :
    s.owed = [] := by
  obtain ⟨hstopping, hgone⟩ := Bool.and_eq_true_iff.1 hfinished
  rw [isStopping] at hstopping
  split at hstopping
  · rename_i r hphase
    rw [owed, (h.of_gone hgone).2, hphase]
    rfl
  · cases hstopping

/-- When everything has come to its end, what was to be committed was, once each and nothing
else; and it is the store that decided on documents. -/
theorem perm_credited_of_isFinished (hw : w.IsTicketed)
    (hordering : plan.delivery.ordering = .immediate) {moves : List Move}
    (h : follow? w (moves.map .move) plan.start = some (told, last))
    (hfinished : last.isFinished = true) :
    ∃ batches,
      Bulk.Session.Delivered w.answers (queued w told) batches ⟨last.indexer, reports told⟩ ∧
      (last.commits.map (·.message)).Perm
        (credited w (visited told) (Bulk.decisions w.answers batches)) := by
  obtain ⟨batches, hdelivered⟩ := exists_delivered_of_isFinished h hfinished
  have howed := owed_eq_nil_of_isFinished (inOrder_of_follow h) hfinished
  have hpaid := (pays_of_follow hordering h).paid
  rw [howed, List.filterMap_nil, List.append_nil] at hpaid
  refine ⟨batches, hdelivered, hpaid.trans (((due_perm told).filterMap _).trans ?_)⟩
  rw [← hdelivered.decided]
  exact perm_credited hw _ _ hdelivered.each

/-- Nothing is read behind a message that cannot be handled. -/
theorem Accounts.last_of_error (h : Accounts w plan told last) {before after : List (Message × σ)}
    {x : Message × σ} {e : ε} (hvisited : visited told = before ++ x :: after)
    (herror : (w.disposition x).error? = some e) :
    after = [] ∧ last.phase.result? = some (.error (.process e)) := by
  have hmem : x ∈ visited told := hvisited ▸ List.mem_append_right _ List.mem_cons_self
  refine ⟨?_, Phase.fatal?_eq_some_iff.1 (h.fatal x hmem e herror)⟩
  have hunfailed := h.unfailed
  rw [hvisited] at hunfailed
  have hlater := (List.pairwise_cons.1 (List.pairwise_append.1 hunfailed).2.1).1
  refine List.eq_nil_iff_forall_not_mem.2 fun y hy => ?_
  cases (hlater y hy).symm.trans herror

end Consumer

namespace Projection

open Consumer

variable {σ : Type}

/-- A message is to be committed by itself, given what the store decides on its document. -/
inductive Earns (p : Projection) (u : Context σ) (x : Message × σ) : Option Bool → Prop
  /-- It can never be processed, or it is the state of an entity, which is written. -/
  | completed {decision? : Option Bool} (h : Completes (u.helpers x.1 x.2) x.1) :
      Earns p u x decision?
  /-- It is an activity that is not left out, and its document is stored. -/
  | stored {item : Bulk.Item Message}
      (h : p.Stores (u.month x.1 x.2) (u.helpers x.1 x.2) x.1 item)
      (hadd : (u.helpers x.1 x.2).add item = .ok ()) : Earns p u x (some true)

variable (p : Projection) (u : Context σ) (answers : Nat → Bulk.Answer)
  (refuses : Message → Bool)

theorem isCredited_iff (x : Message × σ) (decision? : Option Bool) :
    isCredited (p.wiring u answers refuses) x decision? = true ↔ p.Earns u x decision? := by
  rw [isCredited_eq_true_iff, disposition_wiring]
  constructor
  · rintro (hdone | ⟨⟨item, hqueued⟩, rfl⟩)
    · exact .completed (completes_iff.1 hdone)
    · obtain ⟨hstores, hadd⟩ := stores_iff.1 hqueued
      exact .stored hstores hadd
  · rintro (hcompletes | ⟨hstores, hadd⟩)
    · exact .inl (completes_iff.2 hcompletes)
    · exact .inr ⟨⟨_, stores_iff.2 ⟨hstores, hadd⟩⟩, rfl⟩

instance (x : Message × σ) (decision? : Option Bool) : Decidable (p.Earns u x decision?) :=
  decidable_of_iff _ (p.isCredited_iff u (fun _ => .lost "") (fun _ => false) x decision?)

theorem credited_wiring (visits : List (Message × σ)) (decisions : List Bool) :
    credited (p.wiring u answers refuses) visits decisions =
      ((withDecisions (p.wiring u answers refuses) visits decisions).filter fun visit =>
        p.Earns u visit.1 visit.2).map (·.1.1) := by
  refine congrArg (List.map _) (List.filter_congr fun visit _ => ?_)
  rw [Bool.eq_iff_iff, decide_eq_true_iff]
  exact p.isCredited_iff u answers refuses visit.1 visit.2

theorem error?_wiring_of_fails {x : Message × σ} {e : ProjectionError}
    (h : p.Fails (u.month x.1 x.2) (u.helpers x.1 x.2) false x.1 e) :
    ((p.wiring u answers refuses).disposition x).error? = some e := by
  have hfailed : (p.outcome u x).disposition = .failed e := by
    rcases fails_iff.2 h with hfailed | ⟨-, hgone, -⟩
    · exact hfailed
    · cases hgone
  rw [disposition_wiring, hfailed]
  rfl

/-- When everything has come to its end, all documents were sent, and exactly those messages
were committed that earned it by themselves or by what the store decided on their documents,
and once each. A message that failed was the last one, and did not. -/
theorem committed_exactly_once (plan : Plan σ) (hordering : plan.delivery.ordering = .immediate)
    (moves : List Move) (last : Consumer σ ProjectionError)
    (hrun : run? (p.wiring u answers fun _ => false) moves plan.start = some last)
    (hfinished : last.isFinished = true) :
    ∃ told batches,
      follow? (p.wiring u answers fun _ => false) (moves.map .move) plan.start =
        some (told, last) ∧
      fetched told ++ last.unfetched = plan.log ∧
      Bulk.Session.Delivered answers (queued (p.wiring u answers fun _ => false) told) batches
        ⟨last.indexer, reports told⟩ ∧
      ((last.commits.filter (·.accepted)).map (·.message)).Perm
        (((withDecisions (p.wiring u answers fun _ => false) (visited told)
          (Bulk.decisions answers batches)).filter fun visit => p.Earns u visit.1 visit.2).map
            (·.1.1)) ∧
      ∀ before x after e, visited told = before ++ x :: after →
        p.Fails (u.month x.1 x.2) (u.helpers x.1 x.2) false x.1 e →
        after = [] ∧ last.phase.result? = some (.error (.process e)) := by
  obtain ⟨told, hfollow⟩ := run?_eq_some_iff.1 hrun
  have hw := isTicketed_wiring p u answers fun _ => false
  have haccounts := accounts_of_follow hfollow
  obtain ⟨batches, hdelivered, hperm⟩ :=
    perm_credited_of_isFinished hw hordering hfollow hfinished
  refine ⟨told, batches, hfollow, haccounts.log, hdelivered, ?_, ?_⟩
  · have hall : last.commits.filter (·.accepted) = last.commits := by
      refine List.filter_eq_self.2 fun c hc => ?_
      exact (pays_of_follow hordering hfollow).accepted c hc
    rw [hall, ← credited_wiring]
    exact hperm
  · intro before x after e hvisited hfails
    exact haccounts.last_of_error hvisited (error?_wiring_of_fails p u answers _ hfails)

section Run

/-- An event of an unknown name. -/
def stranger : Message :=
  letter 5 "\x7b\"name\":\"Nothing\"\x7d"

/-- The state of a cluster of an excluded user and an activity on it, two activities on
another cluster, something that is no event, an event of an unknown name, and something
behind it. -/
def failing : Plan SnapshotStore where
  log := [
    letter 0 "\x7b\"name\":\"ClusterState\",\"payload\":\x7b\"id\":\"c\",\"user_name\":\"u\"\x7d\x7d",
    letter 1 "\x7b\"name\":\"Event\",\"payload\":\x7b\"cluster_id\":\"c\"\x7d\x7d",
    letter 2 "\x7b\"name\":\"Event\",\"payload\":\x7b\"cluster_id\":\"d\"\x7d\x7d",
    letter 3 "\x7b\"name\":\"Event\",\"payload\":\x7b\"cluster_id\":\"d\"\x7d\x7d",
    letter 4 "", stranger, letter 6 ""]
  state := .memory { expiration := ⟨1000⟩ }

/-- Of all documents none is stored but the first. -/
def reluctant (k : Nat) : Bulk.Answer :=
  if k = 0 then Bulk.Session.halfHearted else .lost ""

/-- A consumer that leaves out activities on clusters of one user. -/
def guarded : Wiring SnapshotStore ProjectionError :=
  wiring { excluded := ["u"] } .memory reluctant fun _ => false

/-- The reader goes on until it fails. -/
def untilFailure : List Move :=
  [.read, .read, .commit, .read, .read, .commit, .read, .read, .read, .read, .read, .read,
    .commit, .read]

/-- Two documents are sent together, or one after the other. -/
theorem together_or_apart {batches : List (Bulk.Batch Message)}
    (hlength : batches.flatten.length = 2) (hne : ∀ batch ∈ batches, batch ≠ []) :
    (∃ x y, batches = [[x, y]]) ∨ ∃ x y, batches = [[x], [y]] := by
  have hpos : ∀ batch ∈ batches, 0 < batch.length := fun batch hbatch =>
    List.length_pos_iff.2 (hne batch hbatch)
  match batches with
  | [] => cases hlength
  | [batch] =>
      obtain ⟨x, y, rfl⟩ := List.length_eq_two.1 (List.flatten_singleton ▸ hlength)
      exact .inl ⟨x, y, rfl⟩
  | [batch, next] =>
      simp only [List.forall_mem_cons] at hpos
      simp only [List.flatten_cons, List.flatten_nil, List.length_append, List.length_nil]
        at hlength
      obtain ⟨x, rfl⟩ := List.length_eq_one_iff.1 (show batch.length = 1 by omega)
      obtain ⟨y, rfl⟩ := List.length_eq_one_iff.1 (show next.length = 1 by omega)
      exact .inr ⟨x, y, rfl⟩
  | batch :: next :: other :: rest =>
      simp only [List.forall_mem_cons] at hpos
      simp only [List.flatten_cons, List.length_append] at hlength
      omega

theorem decisions_reluctant {batches : List (Bulk.Batch Message)}
    (hlength : batches.flatten.length = 2) (hne : ∀ batch ∈ batches, batch ≠ []) :
    Bulk.decisions reluctant batches = [true, false] := by
  have hstored : (reluctant 0).Stores 0 ∧ ¬ (reluctant 0).Stores 1 ∧
      ¬ (reluctant 1).Stores 0 := by
    decide +kernel
  obtain ⟨hfirst, hsecond, hother⟩ := hstored
  rcases together_or_apart hlength hne with ⟨x, y, rfl⟩ | ⟨x, y, rfl⟩
  · simp [Bulk.decisions, List.range_succ, hfirst, hsecond]
  · simp [Bulk.decisions, hfirst, hother]

/-- After that the consumer is brought to its end. One document is stored and one is not, and
the messages of the state, of the stored document and of what is no event are committed. -/
theorem committed_until_failure :
    ∃ more last told batches,
      run? guarded (untilFailure ++ more) failing.start = some last ∧ last.isFinished = true ∧
      fetched told ++ last.unfetched = failing.log ∧
      Bulk.Session.Delivered reluctant (queued guarded told) batches
        ⟨last.indexer, reports told⟩ ∧
      Bulk.decisions reluctant batches = [true, false] ∧
      ((last.commits.filter (·.accepted)).map (·.message.offset)).Perm [0, 2, 4] := by
  have hread : ∃ run ∈ follow? guarded (untilFailure.map .move) failing.start,
      (visited run.1).getLast?.map (·.1) = some stranger ∧
      (queued guarded run.1).length = 2 ∧
      (((withDecisions guarded (visited run.1) [true, false]).filter fun visit =>
        Earns { excluded := ["u"] } .memory visit.1 visit.2).map (·.1.1)).map (·.offset) =
          [0, 2, 4] := by decide +kernel
  have hunknown : Event.ofBytes stranger.value = .ok ⟨"Nothing", .null, Object.empty⟩ := by
    decide +kernel
  obtain ⟨⟨before, s⟩, hbefore, hlast, hqueued, hearned⟩ := hread
  obtain ⟨more, last, -, hmore, hfinished⟩ := (ready_of_follow hbefore).exists_finish guarded
  obtain ⟨later, hlater⟩ := run?_eq_some_iff.1 hmore
  have hwhole : follow? guarded ((untilFailure ++ more).map .move) failing.start =
      some (before ++ later, last) := by
    rw [List.map_append]
    exact follow?_append.2 ⟨before, s, later, hbefore, hlater, rfl⟩
  have hrun : run? guarded (untilFailure ++ more) failing.start = some last :=
    run?_eq_some_iff.2 ⟨_, hwhole⟩
  obtain ⟨told, batches, hfollow, hlog, hdelivered, hcommitted, hfails⟩ :=
    committed_exactly_once { excluded := ["u"] } .memory reluctant failing rfl
      (untilFailure ++ more) last hrun hfinished
  obtain ⟨rfl, -⟩ := Prod.mk.inj (Option.some.inj (hfollow.symm.trans hwhole))
  -- Nothing is read behind the event of an unknown name.
  have hvisited : visited (before ++ later) = visited before := by
    obtain ⟨x, hx, hstranger⟩ := Option.map_eq_some_iff.1 hlast
    obtain ⟨front, hfront⟩ := List.getLast?_eq_some_iff.1 hx
    have hall : visited (before ++ later) = front ++ x :: visited later := by
      rw [visited_append, hfront, List.append_assoc, List.singleton_append]
    obtain ⟨hnil, -⟩ := hfails front x (visited later) (.unknownEvent "Nothing") hall
      (.inl ⟨_, hstranger ▸ hunknown, by decide, rfl⟩)
    rw [visited_append, hnil, List.append_nil]
  have hsame : queued guarded (before ++ later) = queued guarded before := by
    rw [queued, hvisited, queued]
  have hlength : batches.flatten.length = 2 := by
    rw [← hdelivered.settled, ← List.length_map Prod.fst, hdelivered.each]
    exact (congrArg List.length hsame).trans hqueued
  have hdecisions := decisions_reluctant hlength hdelivered.nonempty
  refine ⟨more, last, _, batches, hrun, hfinished, hlog, hdelivered, hdecisions, ?_⟩
  rw [hdecisions, hvisited] at hcommitted
  have hoffsets := hcommitted.map (·.offset)
  rw [List.map_map] at hoffsets
  exact hoffsets.trans (List.Perm.of_eq hearned)

end Run

end Projection

end ClusterEvents
