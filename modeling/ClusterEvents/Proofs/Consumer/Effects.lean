import ClusterEvents.Proofs.Consumer.Runs

/-!
# What an act does

Of a message that was processed, the consumer keeps an acknowledgment until the commit
loop takes it, or an item until it is reported. Wherever these are just now, the reader
hands them to a channel and the worker moves them along, and most acts change nothing
but their place. `Effect` lists the acts that do more: a message is processed, an item is
reported, an acknowledgment is settled.

No act loses anything, since channels are closed in order: nobody sends once the receiver
is gone. This is `InOrder`, which every act keeps. Both are proved for each party in turn.
-/

namespace ClusterEvents

namespace Disposition

variable {ε : Type}

/-- The acknowledgments that a processed message leads to at once. -/
def acks (m : Message) : Disposition ε → List Ack
  | .done => [.done m]
  | .skipped => [.skipped m]
  | _ => []

/-- The items that a processed message leads to. -/
def items : Disposition ε → List (Bulk.Item Message)
  | .queued item => [item]
  | _ => []

/-- Why a message could not be processed. -/
def error? : Disposition ε → Option ε
  | .failed e => some e
  | _ => none

/-- Where the reader is once it has processed a message. -/
def phase (m : Message) : Disposition ε → Phase ε
  | .done => .acknowledging (.done m)
  | .skipped => .acknowledging (.skipped m)
  | .held => .fetching
  | .queued item => .storing item
  | .failed e => .ended (.error (.process e))

end Disposition

namespace Phase

variable {ε : Type}

/-- The acknowledgment that the reader has to pass on. -/
def ack? : Phase ε → Option Ack
  | .acknowledging ack => some ack
  | _ => none

/-- The item that the reader has to pass on. -/
def item? : Phase ε → Option (Bulk.Item Message)
  | .storing item => some item
  | _ => none

/-- Whether the reader has told the indexer to close. -/
def isClosing : Phase ε → Bool
  | .draining _ | .stopping _ => true
  | _ => false

/-- Why the reader could not handle its last message. -/
def fatal? (phase : Phase ε) : Option ε :=
  match phase.result? with
  | some (.error (.process e)) => some e
  | _ => none

theorem fatal?_eq_some_iff {phase : Phase ε} {e : ε} :
    phase.fatal? = some e ↔ phase.result? = some (.error (.process e)) := by
  rw [fatal?]
  split
  · rename_i e' hresult
    rw [hresult]
    simp
  · rename_i hother
    exact iff_of_false (fun h => by cases h) (hother e)

@[simp] theorem ack?_fetching : (fetching : Phase ε).ack? = none := rfl

@[simp] theorem item?_fetching : (fetching : Phase ε).item? = none := rfl

@[simp] theorem ack?_phase (d : Disposition ε) (m : Message) :
    (d.phase m).ack?.toList = d.acks m := by
  cases d <;> rfl

@[simp] theorem item?_phase (d : Disposition ε) (m : Message) :
    (d.phase m).item?.toList = d.items := by
  cases d <;> rfl

@[simp] theorem fatal?_phase (d : Disposition ε) (m : Message) :
    (d.phase m).fatal? = d.error? := by
  cases d <;> rfl

@[simp] theorem isClosing_phase (d : Disposition ε) (m : Message) :
    (d.phase m).isClosing = false := by
  cases d <;> rfl

end Phase

namespace Consumer

variable {σ ε : Type} {w : Wiring σ ε} {s t : Consumer σ ε}

/-- The acknowledgments that are owed to the commit loop, in order. -/
def owed (s : Consumer σ ε) : List Ack :=
  s.acks.values ++ s.phase.ack?.toList

/-- The items that are not reported yet, in the order of their messages. -/
def items (s : Consumer σ ε) : List (Bulk.Item Message) :=
  s.indexer.held ++ s.phase.item?.toList

/-- Nobody sends into a channel that nobody receives from. -/
structure InOrder (s : Consumer σ ε) : Prop where
  indexer : s.indexer.InOrder
  not_told : s.phase.isClosing = false → ¬ s.indexer.IsToldToClose
  stopped : s.isStopping = true → s.indexer.stopped = true
  of_gone : s.acks.receiverGone = true → s.isStopping = true ∧ s.acks.values = []

theorem inOrder_start (plan : Plan σ) : (plan.start : Consumer σ ε).InOrder where
  indexer := Bulk.Indexer.inOrder_new _ _
  not_told := fun _ => Bulk.Indexer.not_isToldToClose_new _ _
  stopped := fun h => by cases h
  of_gone := fun h => by cases h

/-- What most acts leave alone. -/
structure Frame (s t : Consumer σ ε) : Prop where
  unfetched : t.unfetched = s.unfetched
  tracker : t.tracker = s.tracker
  commits : t.commits = s.commits
  fatal : t.phase.fatal? = s.phase.fatal?

/-- The acknowledgment that a report leads to. -/
def acksOf (item : Bulk.Item Message) : Bulk.Verdict → List Ack
  | .ok _ => [.done item.ticket]
  | .error _ => []

/-- What an act does, and what is noted of it. -/
inductive Effect (w : Wiring σ ε) (s t : Consumer σ ε) : Act → List (Note σ) → Prop
  /-- Nothing but that something is passed on, or that the reader has come to its end. -/
  | still {act : Act} (frame : Frame s t) (owed : t.owed = s.owed)
      (items : t.items = s.items) : Effect w s t act []
  /-- A message is fetched and processed. -/
  | processed {m : Message} (unfetched : s.unfetched = m :: t.unfetched)
      (tracker : t.tracker = s.tracker.map fun (t : Tracker) => t.track m)
      (commits : t.commits = s.commits)
      (fatal : s.phase.fatal? = none ∧
        t.phase.fatal? = (w.process m s.state).disposition.error?)
      (owed : t.owed = s.owed ++ (w.process m s.state).disposition.acks m)
      (items : t.items = s.items ++ (w.process m s.state).disposition.items) :
      Effect w s t (.move .read) [.processed m s.state]
  /-- The worker reports the first item. -/
  | settled {item : Bulk.Item Message} {verdict : Bulk.Verdict} (frame : Frame s t)
      (owed : t.owed.Perm (acksOf item verdict ++ s.owed)) (items : s.items = item :: t.items) :
      Effect w s t (.move .work) [.reported item verdict]
  /-- Any item is reported. -/
  | reported {item : Bulk.Item Message} {verdict : Bulk.Verdict} (frame : Frame s t)
      (owed : t.owed.Perm (acksOf item verdict ++ s.owed))
      (items : s.items.Perm (item :: t.items)) :
      Effect w s t (.report item verdict) [.reported item verdict]
  /-- The commit loop settles an acknowledgment. -/
  | committed {ack : Ack} (unfetched : t.unfetched = s.unfetched)
      (tracker : t.tracker = (s.settle w ack).tracker)
      (commits : t.commits = (s.settle w ack).commits) (fatal : t.phase.fatal? = s.phase.fatal?)
      (owed : s.owed = ack :: t.owed) (items : t.items = s.items) :
      Effect w s t (.move .commit) []

theorem isClosing_of_isStopping (h : s.isStopping = true) : s.phase.isClosing = true := by
  rw [isStopping] at h
  split at h
  · rename_i hphase
    rw [hphase]
    rfl
  · cases h

/-- As long as the reader is at work, somebody takes acknowledgments. -/
theorem InOrder.not_gone (h : s.InOrder) (hphase : s.phase.isClosing = false) :
    s.acks.receiverGone = false := by
  cases hgone : s.acks.receiverGone with
  | false => rfl
  | true =>
      rw [isClosing_of_isStopping (h.of_gone hgone).1] at hphase
      cases hphase

/-! ## The reader -/

/-- What becomes of the consumer when it processes a message. -/
theorem handle_eq (m : Message) :
    ∃ n, s.handle w m = { s with
      tracker := s.tracker.map fun (t : Tracker) => t.track m
      state := (w.process m s.state).state
      cancelled := s.cancelled || (w.process m s.state).stop
      phase := (w.process m s.state).disposition.phase m
      processed := n } := by
  simp only [handle]
  cases (w.process m s.state).disposition <;> exact ⟨_, rfl⟩

theorem InOrder.of_open (hphase : s.phase.isClosing = false)
    (hacks : s.acks.receiverGone = false) (hindexer : s.indexer.InOrder)
    (htold : ¬ s.indexer.IsToldToClose) : s.InOrder := by
  refine ⟨hindexer, fun _ => htold, fun hstopping => ?_, fun hgone => ?_⟩
  · rw [isClosing_of_isStopping hstopping] at hphase
    cases hphase
  · rw [hacks] at hgone
    cases hgone

/-- The reader comes to its end without having failed on a message. -/
theorem effect_of_end (h : s.InOrder) (hphase : s.phase = .fetching) {r : RunResult ε}
    (hr : (Phase.ended r).fatal? = none) {act : Act} :
    InOrder { s with phase := .ended r } ∧
      Effect w s { s with phase := .ended r } act [] := by
  have hs : s.phase.isClosing = false := by
    rw [hphase]
    rfl
  refine ⟨.of_open rfl (h.not_gone hs) h.indexer (h.not_told hs), .still ⟨rfl, rfl, rfl, ?_⟩ ?_ ?_⟩
  · rw [hr, hphase]
    rfl
  · rw [owed, owed, hphase]
    rfl
  · rw [items, items, hphase]
    rfl

theorem fetch_cons (hcancelled : s.cancelled = false) {m : Message} {rest : List Message}
    (hunfetched : s.unfetched = m :: rest) :
    s.fetch w = { s with unfetched := rest }.handle w m := by
  rw [fetch, if_neg (by simp [hcancelled])]
  split
  · rename_i heq
    obtain ⟨rfl, rfl⟩ := List.cons.inj (hunfetched.symm.trans heq)
    rfl
  · rename_i heq
    cases hunfetched.symm.trans heq

theorem fetch_nil (hunfetched : s.unfetched = []) :
    ∃ r, (Phase.ended r).fatal? = none ∧ s.fetch w = { s with phase := .ended r } := by
  rw [fetch]
  split
  · exact ⟨_, rfl, rfl⟩
  · split
    · rename_i heq
      cases hunfetched.symm.trans heq
    · split
      · exact ⟨_, rfl, rfl⟩
      · exact ⟨_, rfl, rfl⟩

/-- The reader comes to its end, or it processes a message. -/
theorem fetch_spec (w : Wiring σ ε) (hphase : s.phase = .fetching) :
    (∃ r, (Phase.ended r).fatal? = none ∧ s.fetch w = { s with phase := .ended r } ∧
      s.notes (.move .read) = []) ∨
    ∃ m rest n, s.unfetched = m :: rest ∧
      s.fetch w = { s with
        unfetched := rest
        tracker := s.tracker.map fun (t : Tracker) => t.track m
        state := (w.process m s.state).state
        cancelled := s.cancelled || (w.process m s.state).stop
        phase := (w.process m s.state).disposition.phase m
        processed := n } ∧
      s.notes (.move .read) = [.processed m s.state] := by
  by_cases hcancelled : s.cancelled = true
  · refine .inl ⟨.ok s.processed, rfl, if_pos hcancelled, ?_⟩
    simp [notes, nextMessage?, hphase, hcancelled]
  · rw [Bool.not_eq_true] at hcancelled
    by_cases hnil : s.unfetched = []
    · obtain ⟨r, hr, hfetch⟩ := fetch_nil (w := w) hnil
      refine .inl ⟨r, hr, hfetch, ?_⟩
      simp [notes, nextMessage?, hphase, hnil]
    · obtain ⟨m, rest, hunfetched⟩ := List.exists_cons_of_ne_nil hnil
      obtain ⟨n, hhandle⟩ := handle_eq (w := w) (s := { s with unfetched := rest }) m
      refine .inr ⟨m, rest, n, hunfetched, (fetch_cons hcancelled hunfetched).trans hhandle, ?_⟩
      simp [notes, nextMessage?, hphase, hcancelled, hunfetched]

theorem effect_of_fetch (h : s.InOrder) (hphase : s.phase = .fetching) :
    (s.fetch w).InOrder ∧ Effect w s (s.fetch w) (.move .read) (s.notes (.move .read)) := by
  have hs : s.phase.isClosing = false := by
    rw [hphase]
    rfl
  rcases fetch_spec w hphase with
    ⟨r, hr, hfetch, hnotes⟩ | ⟨m, rest, n, hunfetched, hfetch, hnotes⟩
  · rw [hfetch, hnotes]
    exact effect_of_end h hphase hr
  · rw [hfetch, hnotes]
    refine ⟨.of_open (by simp) (h.not_gone hs) h.indexer (h.not_told hs),
      .processed hunfetched rfl rfl ?_ ?_ ?_⟩
    · exact ⟨by rw [hphase]; rfl, by simp⟩
    · rw [owed, owed, hphase]
      simp
    · rw [items, items, hphase]
      simp

theorem notes_read_of_ne (hphase : s.phase ≠ .fetching) : s.notes (.move .read) = [] := by
  rw [notes, nextMessage?]
  split
  · rename_i heq
    exact absurd heq hphase
  · rfl

theorem effect_of_read (h : s.InOrder) (ht : s.read? w = some t) :
    t.InOrder ∧ Effect w s t (.move .read) (s.notes (.move .read)) := by
  rw [read?] at ht
  split at ht
  · rename_i hphase
    obtain rfl := Option.some.inj ht
    exact effect_of_fetch h hphase
  · rename_i ack hphase
    have hs : s.phase.isClosing = false := by
      rw [hphase]
      rfl
    rw [notes_read_of_ne (by simp [hphase])]
    split at ht
    · rename_i acks hsend
      obtain ⟨hopen, rfl⟩ := Channel.send_eq_ok hsend
      obtain rfl := Option.some.inj ht
      refine ⟨.of_open rfl hopen h.indexer (h.not_told hs), .still ⟨rfl, rfl, rfl, ?_⟩ ?_ ?_⟩
      · rw [hphase]
        rfl
      · simp [owed, passedOn, hphase, Phase.ack?]
      · simp [items, passedOn, hphase, Phase.item?]
    · cases ht
    · rename_i hsend
      have hgone := Channel.send_eq_closed hsend
      rw [h.not_gone hs] at hgone
      cases hgone
  · rename_i item hphase
    have hs : s.phase.isClosing = false := by
      rw [hphase]
      rfl
    rw [notes_read_of_ne (by simp [hphase])]
    split at ht
    · rename_i indexer hadd
      obtain ⟨hindexer, hheld, htold⟩ := h.indexer.add (h.not_told hs) hadd
      obtain rfl := Option.some.inj ht
      refine ⟨.of_open rfl (h.not_gone hs) hindexer htold, .still ⟨rfl, rfl, rfl, ?_⟩ ?_ ?_⟩
      · rw [hphase]
        rfl
      · simp [owed, passedOn, hphase, Phase.ack?]
      · simp [items, passedOn, hphase, Phase.item?, hheld]
    · cases ht
    · rename_i hadd
      exact absurd (Bulk.Indexer.add_eq_closed hadd) (h.indexer.not_gone (h.not_told hs))
  · rename_i r hphase
    have hs : s.phase.isClosing = false := by
      rw [hphase]
      rfl
    rw [notes_read_of_ne (by simp [hphase])]
    split at ht
    · rename_i indexer hclose
      obtain ⟨hindexer, hheld⟩ := h.indexer.close (h.not_told hs) hclose
      obtain rfl := Option.some.inj ht
      refine ⟨⟨hindexer, fun hclosing => ?_, fun hstopping => ?_, fun hgone => ?_⟩,
        .still ⟨rfl, rfl, rfl, ?_⟩ ?_ ?_⟩
      · cases hclosing
      · cases hstopping
      · have hgone' := h.not_gone hs
        rw [show s.acks.receiverGone = true from hgone] at hgone'
        cases hgone'
      · rw [hphase]
        rfl
      · simp [owed, hphase, Phase.ack?]
      · simp [items, hphase, Phase.item?, hheld]
    · cases ht
    · rename_i hclose
      exact absurd (Bulk.Indexer.submit_eq_closed hclose) (h.indexer.not_gone (h.not_told hs))
  · rename_i r hphase
    rw [notes_read_of_ne (by simp [hphase])]
    split at ht
    · rename_i hstopped
      obtain rfl := Option.some.inj ht
      refine ⟨⟨h.indexer, fun hclosing => ?_, fun _ => hstopped, fun hgone => ?_⟩,
        .still ⟨rfl, rfl, rfl, ?_⟩ ?_ ?_⟩
      · cases hclosing
      · exact ⟨rfl, (h.of_gone hgone).2⟩
      · rw [hphase]
        rfl
      · simp [owed, hphase, Phase.ack?]
      · simp [items, hphase, Phase.item?]
    · cases ht
  · cases ht

/-! ## The worker -/

theorem InOrder.worker (h : s.InOrder) (hstopped : s.indexer.stopped = false)
    (hkeeps : s.indexer.Keeps t.indexer) (hphase : t.phase = s.phase)
    (hacks : t.acks.receiverGone = s.acks.receiverGone) : t.InOrder := by
  have hnot : s.isStopping ≠ true := fun hstopping => by
    rw [h.stopped hstopping] at hstopped
    cases hstopped
  have hsame : t.isStopping = s.isStopping := by rw [isStopping, isStopping, hphase]
  refine ⟨hkeeps.inOrder, fun hclosing htold => ?_, fun hstopping => ?_, fun hgone => ?_⟩
  · rw [hphase] at hclosing
    exact h.not_told hclosing (hkeeps.told htold)
  · exact absurd (hsame ▸ hstopping) hnot
  · exact absurd (h.of_gone (hacks ▸ hgone)).1 hnot

theorem stopped_eq_false_of_held {item : Bulk.Item Message} (h : s.InOrder)
    (hmem : item ∈ s.indexer.held) : s.indexer.stopped = false := by
  cases hstopped : s.indexer.stopped with
  | false => rfl
  | true =>
      rw [h.indexer.held_eq_nil hstopped] at hmem
      cases hmem

theorem stopped_eq_false_of_isIdle (h : s.indexer.isIdle = true) :
    s.indexer.stopped = false := by
  rw [Bulk.Indexer.stopped, (Bulk.Indexer.isIdle_iff.1 h).1, Bool.false_and]

/-- Someone takes the acknowledgment of an item that is held. -/
theorem InOrder.not_gone_of_held {item : Bulk.Item Message} (h : s.InOrder)
    (hmem : item ∈ s.indexer.held) : s.acks.receiverGone ≠ true := fun hgone => by
  have hstopped := stopped_eq_false_of_held h hmem
  rw [h.stopped (h.of_gone hgone).1] at hstopped
  cases hstopped

/-- The message of a stored item is acknowledged behind what is in the channel. -/
theorem eq_of_send {item : Bulk.Item Message} {indexer : Bulk.Indexer Message}
    (hopen : s.acks.receiverGone ≠ true)
    (ht : (match s.acks.send (.done item.ticket) with
      | .ok acks => some { s with indexer, acks }
      | .full => none
      | .closed => some { s with indexer }) = some t) :
    t = { s with
      indexer := indexer
      acks := { s.acks with values := s.acks.values ++ [.done item.ticket] } } := by
  split at ht
  · rename_i acks hsend
    obtain ⟨-, rfl⟩ := Channel.send_eq_ok hsend
    exact (Option.some.inj ht).symm
  · cases ht
  · rename_i hsend
    exact absurd (Channel.send_eq_closed hsend) hopen

theorem perm_owed {ack : Ack} {indexer : Bulk.Indexer Message} :
    (owed { s with
      indexer := indexer
      acks := { s.acks with values := s.acks.values ++ [ack] } }).Perm (ack :: s.owed) := by
  simp only [owed, List.append_assoc, List.singleton_append]
  exact List.perm_middle

theorem effect_of_work (h : s.InOrder) (ht : s.work? w = some t) :
    t.InOrder ∧ Effect w s t (.move .work) (s.notes (.move .work)) := by
  rw [work?] at ht
  split at ht
  · rename_i hsettle
    obtain ⟨indexer, hwork, rfl⟩ := Option.map_eq_some_iff.1 ht
    obtain ⟨hkeeps, hheld⟩ := Bulk.Indexer.Keeps.work h.indexer hwork
    have hidle : s.indexer.isIdle = true := by
      by_contra hbusy
      rw [Bulk.Indexer.work?, if_neg hbusy] at hwork
      cases hwork
    have hnotes : s.notes (.move .work) = [] := by simp [notes, hsettle]
    rw [hnotes]
    refine ⟨h.worker (stopped_eq_false_of_isIdle hidle) hkeeps rfl rfl,
      .still ⟨rfl, rfl, rfl, rfl⟩ rfl ?_⟩
    rw [items, items, hheld]
  · rename_i item e indexer hsettle
    obtain ⟨hkeeps, hheld⟩ := Bulk.Indexer.Keeps.settle h.indexer hsettle
    have hmem : item ∈ s.indexer.held := hheld ▸ List.mem_cons_self
    have hnotes : s.notes (.move .work) = [.reported item (.error e)] := by
      simp [notes, hsettle]
    obtain rfl := Option.some.inj ht
    rw [hnotes]
    refine ⟨h.worker (stopped_eq_false_of_held h hmem) hkeeps rfl rfl,
      .settled ⟨rfl, rfl, rfl, rfl⟩ (List.Perm.refl _) ?_⟩
    rw [items, items, hheld, List.cons_append]
  · rename_i item u indexer hsettle
    obtain ⟨hkeeps, hheld⟩ := Bulk.Indexer.Keeps.settle h.indexer hsettle
    have hmem : item ∈ s.indexer.held := hheld ▸ List.mem_cons_self
    have hnotes : s.notes (.move .work) = [.reported item (.ok u)] := by
      simp [notes, hsettle]
    obtain rfl := eq_of_send (h.not_gone_of_held hmem) ht
    rw [hnotes]
    refine ⟨h.worker (stopped_eq_false_of_held h hmem) hkeeps rfl rfl,
      .settled ⟨rfl, rfl, rfl, rfl⟩ perm_owed ?_⟩
    simp only [items, hheld, List.cons_append]

theorem effect_of_tick (h : s.InOrder) (ht : s.tick? w = some t) :
    t.InOrder ∧ Effect w s t (.move .tick) (s.notes (.move .tick)) := by
  obtain ⟨indexer, htick, rfl⟩ := Option.map_eq_some_iff.1 ht
  obtain ⟨hkeeps, hheld⟩ := Bulk.Indexer.Keeps.tick h.indexer htick
  have hidle : s.indexer.isIdle = true := by
    by_contra hbusy
    rw [Bulk.Indexer.tick?, if_neg hbusy] at htick
    cases htick
  refine ⟨h.worker (stopped_eq_false_of_isIdle hidle) hkeeps rfl rfl,
    .still ⟨rfl, rfl, rfl, rfl⟩ rfl ?_⟩
  rw [items, items, hheld]

theorem effect_of_report (h : s.InOrder) {item : Bulk.Item Message} {verdict : Bulk.Verdict}
    (ht : s.report? item verdict = some t) :
    t.InOrder ∧ Effect w s t (.report item verdict) (s.notes (.report item verdict)) := by
  simp only [report?] at ht
  split at ht
  · rename_i hmem
    have hkeeps := Bulk.Indexer.Keeps.withdraw h.indexer item
    have hstopped := stopped_eq_false_of_held h hmem
    have hitems := (Bulk.Indexer.held_withdraw hmem).append_right s.phase.item?.toList
    cases verdict with
    | error e =>
        obtain rfl := Option.some.inj ht
        exact ⟨h.worker hstopped hkeeps rfl rfl,
          .reported ⟨rfl, rfl, rfl, rfl⟩ (List.Perm.refl _) hitems⟩
    | ok u =>
        obtain rfl := eq_of_send (h.not_gone_of_held hmem) ht
        exact ⟨h.worker hstopped hkeeps rfl rfl,
          .reported ⟨rfl, rfl, rfl, rfl⟩ perm_owed hitems⟩
  · cases ht

/-! ## The commit loop -/

/-- What a settlement changes does not depend on what else is in the channel. -/
theorem settle_eq (acks : Channel Ack) (ack : Ack) :
    ∃ n, ({ s with acks } : Consumer σ ε).settle w ack = { s with
      acks := acks
      tracker := (s.settle w ack).tracker
      commits := (s.settle w ack).commits
      abandoned := n } := by
  cases htracker : s.tracker with
  | none => cases ack <;> exact ⟨_, by simp [settle, commitMessage, htracker]; rfl⟩
  | some tracker =>
      cases hready : (tracker.settle ack.message ack.slot).1 with
      | none => exact ⟨_, by simp [settle, htracker, hready]; rfl⟩
      | some m => exact ⟨_, by simp [settle, commitMessage, htracker, hready]; rfl⟩

theorem effect_of_commit (h : s.InOrder) (ht : s.commit? w = some t) :
    t.InOrder ∧ Effect w s t (.move .commit) (s.notes (.move .commit)) := by
  rw [commit?] at ht
  split at ht
  · rename_i ack acks hreceive
    obtain ⟨hvalues, hrest⟩ := Channel.receive_eq_value hreceive
    obtain ⟨n, hsettle⟩ := settle_eq (w := w) (s := s) acks ack
    rw [hsettle] at ht
    obtain rfl := Option.some.inj ht
    refine ⟨⟨h.indexer, h.not_told, h.stopped, fun hgone => ?_⟩,
      .committed rfl rfl rfl rfl ?_ rfl⟩
    · have hgone' : s.acks.receiverGone = true := by
        rw [← hgone]
        exact (congrArg Channel.receiverGone hrest).symm
      rw [(h.of_gone hgone').2] at hvalues
      cases hvalues
    · rw [owed, owed, hvalues, List.cons_append]
  all_goals
    rename_i hreceive
    split at ht
    · rename_i hstop
      have hvalues : s.acks.values = [] := Channel.receive_eq_nil fun v d hvalue => by
        rw [hreceive] at hvalue
        cases hvalue
      obtain rfl := Option.some.inj ht
      refine ⟨⟨h.indexer, h.not_told, h.stopped, fun _ => ?_⟩,
        .still ⟨rfl, rfl, rfl, rfl⟩ ?_ rfl⟩
      · exact ⟨(Bool.and_eq_true_iff.1 hstop).1, rfl⟩
      · simp only [owed, hvalues, Channel.dropReceiver]
    · cases ht

/-! ## All acts -/

theorem effect_of_act {act : Act} (h : s.InOrder) (ht : s.act? w act = some t) :
    t.InOrder ∧ Effect w s t act (s.notes act) := by
  cases act with
  | move move =>
      cases move with
      | read => exact effect_of_read h ht
      | work => exact effect_of_work h ht
      | tick => exact effect_of_tick h ht
      | commit => exact effect_of_commit h ht
  | report item verdict => exact effect_of_report h ht
  | cancel =>
      obtain rfl := Option.some.inj ht
      exact ⟨⟨h.indexer, h.not_told, h.stopped, h.of_gone⟩,
        .still ⟨rfl, rfl, rfl, rfl⟩ rfl rfl⟩

theorem inOrder_of_follow {plan : Plan σ} {acts : List Act} {told : List (Note σ)}
    {last : Consumer σ ε} (h : follow? w acts plan.start = some (told, last)) :
    last.InOrder :=
  follow_induction (P := fun _ _ t => t.InOrder) (inOrder_start plan)
    (fun _ ht hact => (effect_of_act ht hact).1) h

/-- What holds at the start and survives every effect holds after every run. -/
theorem effect_induction {plan : Plan σ} {acts : List Act} {told : List (Note σ)}
    {last : Consumer σ ε} {P : List Act → List (Note σ) → Consumer σ ε → Prop}
    (start : P [] [] plan.start)
    (step : ∀ {acts told s act new t}, follow? w acts plan.start = some (told, s) →
      P acts told s → s.InOrder → Effect w s t act new → P (acts ++ [act]) (told ++ new) t)
    (h : follow? w acts plan.start = some (told, last)) : P acts told last :=
  follow_induction start (fun hfollow hP hact =>
    have hbefore := inOrder_of_follow hfollow
    step hfollow hP hbefore (effect_of_act hbefore hact).2) h

end Consumer

end ClusterEvents
