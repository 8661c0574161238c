import ClusterEvents.Proofs.Consumer.Wirings
import ClusterEvents.Proofs.Projection.States

/-!
# One disposition for each message

The reader processes a message in two moves. With the first it learns what becomes of the
message, and sends nothing yet; with the second it passes on what there is to pass on, for
which it may have to wait while the others go on. Taken together they do one thing and
nothing besides: one acknowledgment is sent, or one item is queued, or the reader ends
with an error (`does_of_passOn`). Which of these it is depends on what the message says,
on what the snapshots answer, and on whether the item is refused (`one_disposition`).
-/

namespace ClusterEvents

namespace Disposition

variable {ε : Type} {d : Disposition ε} {refused : Bool} {e : ε}

/-- An item that is refused fails its message. -/
def unlessRefused (refused : Bool) (e : ε) : Disposition ε → Disposition ε
  | .queued item => if refused then .failed e else .queued item
  | d => d

theorem unlessRefused_eq_done_iff : d.unlessRefused refused e = .done ↔ d = .done := by
  cases d <;> cases refused <;> simp [unlessRefused]

theorem unlessRefused_eq_skipped_iff : d.unlessRefused refused e = .skipped ↔ d = .skipped := by
  cases d <;> cases refused <;> simp [unlessRefused]

theorem unlessRefused_eq_held_iff : d.unlessRefused refused e = .held ↔ d = .held := by
  cases d <;> cases refused <;> simp [unlessRefused]

theorem unlessRefused_eq_queued_iff {item : Bulk.Item Message} :
    d.unlessRefused refused e = .queued item ↔ d = .queued item ∧ refused = false := by
  cases d <;> cases refused <;> simp [unlessRefused]

theorem unlessRefused_eq_failed_iff {e' : ε} :
    d.unlessRefused refused e = .failed e' ↔
      d = .failed e' ∨ (∃ item, d = .queued item) ∧ refused = true ∧ e' = e := by
  cases d <;> cases refused <;> simp [unlessRefused, eq_comm]

end Disposition

namespace Consumer

variable {σ ε : Type} {w : Wiring σ ε} {s t : Consumer σ ε} {m : Message} {d d' : Disposition ε}

/-! ## What the reader does -/

/-- The reader has sent an acknowledgment and turns to the next message. -/
def acknowledged (s : Consumer σ ε) (ack : Ack) : Consumer σ ε :=
  { s with acks := { s.acks with values := s.acks.values ++ [ack] } }.passedOn

/-- The reader has queued an item and turns to the next message. -/
def enqueued (s : Consumer σ ε) (item : Bulk.Item Message) : Consumer σ ε :=
  { s with
    indexer := { s.indexer with
      commands := { s.indexer.commands with
        values := s.indexer.commands.values ++ [Bulk.Command.add item] }
      stats := { s.indexer.stats with added := s.indexer.stats.added + 1 } } }.passedOn

/-- All that is done about a message between two states. -/
def Does (m : Message) (s t : Consumer σ ε) : Disposition ε → Prop
  | .done => t = s.acknowledged (.done m)
  | .skipped => t = s.acknowledged (.skipped m)
  | .held => t = s.passedOn
  | .queued item => t = s.enqueued item
  | .failed e => t = { s with phase := .ended (.error (.process e)) }

theorem Does.shows (h : Does m s t d) :
    t.acks.values = s.acks.values ++ d.acks m ∧
      t.indexer.commands.values = s.indexer.commands.values ++ d.items.map .add ∧
      t.phase.fatal? = d.error? := by
  cases d with
  | done =>
      obtain rfl : t = s.acknowledged (.done m) := h
      exact ⟨rfl, (List.append_nil _).symm, rfl⟩
  | skipped =>
      obtain rfl : t = s.acknowledged (.skipped m) := h
      exact ⟨rfl, (List.append_nil _).symm, rfl⟩
  | held =>
      obtain rfl : t = s.passedOn := h
      exact ⟨(List.append_nil _).symm, (List.append_nil _).symm, rfl⟩
  | queued item =>
      obtain rfl : t = s.enqueued item := h
      exact ⟨(List.append_nil _).symm, rfl, rfl⟩
  | failed e =>
      obtain rfl : t = { s with phase := .ended (.error (.process e)) } := h
      exact ⟨(List.append_nil _).symm, (List.append_nil _).symm, rfl⟩

/-- What is sent, what is queued and how the reader ends tell dispositions apart. -/
theorem eq_of_shows (hacks : d.acks m = d'.acks m) (hitems : d.items = d'.items)
    (herror : d.error? = d'.error?) : d = d' := by
  cases d <;> cases d' <;> simp_all [Disposition.acks, Disposition.items, Disposition.error?]

theorem Does.unique (h : Does m s t d) (h' : Does m s t d') : d = d' := by
  obtain ⟨hacks, hcommands, hfatal⟩ := h.shows
  obtain ⟨hacks', hcommands', hfatal'⟩ := h'.shows
  have hitems := List.append_cancel_left (hcommands.symm.trans hcommands')
  have hinjective : Function.Injective (Bulk.Command.add (κ := Message)) :=
    fun _ _ heq => Bulk.Command.add.inj heq
  exact eq_of_shows (List.append_cancel_left (hacks.symm.trans hacks'))
    (List.map_injective_iff.2 hinjective hitems) (hfatal.symm.trans hfatal')

/-! ## Two moves -/

theorem nextMessage?_eq_some_iff :
    s.nextMessage? = some m ↔
      s.phase = .fetching ∧ s.cancelled = false ∧ ∃ rest, s.unfetched = m :: rest := by
  rw [nextMessage?]
  split
  · rename_i hphase
    rw [hphase, Option.ite_none_left_eq_some, List.head?_eq_some_iff, Bool.not_eq_true]
    simp
  · rename_i hphase
    exact iff_of_false (fun h => by cases h) fun h => hphase h.1

/-- When the reader processes a message it sends nothing. -/
theorem read?_of_nextMessage? (hnext : s.nextMessage? = some m) :
    ∃ t, s.read? w = some t ∧ t.acks = s.acks ∧ t.indexer = s.indexer ∧
      t.phase = (w.process m s.state).disposition.phase m := by
  obtain ⟨hphase, hcancelled, rest, hunfetched⟩ := nextMessage?_eq_some_iff.1 hnext
  obtain ⟨n, hhandle⟩ := handle_eq (w := w) (s := { s with unfetched := rest }) m
  have hread : s.read? w = some (s.fetch w) := by
    rw [read?]
    split <;> simp_all
  rw [hread, fetch_cons hcancelled hunfetched, hhandle]
  exact ⟨_, rfl, rfl, rfl, rfl⟩

/-- The reader passes on what it has to of the message that it has processed. -/
def passOn? (w : Wiring σ ε) (s : Consumer σ ε) : Option (Consumer σ ε) :=
  match s.phase with
  | .acknowledging _ | .storing _ => s.read? w
  | _ => some s

theorem passOn?_acknowledging {ack : Ack} (hphase : s.phase = .acknowledging ack)
    (hopen : s.acks.receiverGone = false) (ht : s.passOn? w = some t) :
    t = s.acknowledged ack := by
  simp only [passOn?, read?, hphase] at ht
  split at ht
  · rename_i acks hsend
    obtain ⟨-, rfl⟩ := Channel.send_eq_ok hsend
    exact (Option.some.inj ht).symm
  · cases ht
  · rename_i hsend
    rw [Channel.send_eq_closed hsend] at hopen
    cases hopen

theorem passOn?_storing {item : Bulk.Item Message} (hphase : s.phase = .storing item)
    (ht : s.passOn? w = some t) :
    t = if s.indexer.commands.receiverGone then
        { s with phase := .ended (.error (.process w.unstored)) }
      else s.enqueued item := by
  simp only [passOn?, read?, hphase] at ht
  split at ht
  · rename_i indexer hadd
    obtain ⟨z, hsubmit, rfl⟩ := Bulk.Indexer.add_eq_ok hadd
    rw [if_neg (Bool.eq_false_iff.1 (Bulk.Indexer.open_of_submit hsubmit)), enqueued]
    obtain rfl := Bulk.Indexer.submit_eq_ok hsubmit
    exact (Option.some.inj ht).symm
  · cases ht
  · rename_i hadd
    rw [if_pos (Bulk.Indexer.add_eq_closed hadd)]
    exact (Option.some.inj ht).symm

/-- The reader need not wait for anybody when there is room in both channels, or nobody at
the other end of that of the indexer. -/
theorem exists_passOn? (w : Wiring σ ε) (hroom : s.acks.hasRoom = true)
    (hindexer : s.indexer.commands.receiverGone = true ∨ s.indexer.commands.hasRoom = true) :
    ∃ t, s.passOn? w = some t := by
  rw [passOn?]
  split
  · rename_i ack hphase
    simp only [read?, hphase]
    split
    · exact ⟨_, rfl⟩
    · rename_i hsend
      rw [(Channel.send_eq_full hsend).2] at hroom
      cases hroom
    · exact ⟨_, rfl⟩
  · rename_i item hphase
    simp only [read?, hphase]
    split
    · exact ⟨_, rfl⟩
    · rename_i hadd
      obtain ⟨hopen, hfull⟩ := Bulk.Indexer.add_eq_full hadd
      rcases hindexer with hgone | hroom'
      · rw [hopen] at hgone
        cases hgone
      · rw [hfull] at hroom'
        cases hroom'
    · exact ⟨_, rfl⟩
  · exact ⟨_, rfl⟩

theorem does_of_passOn (hphase : s.phase = d.phase m) (hheld : d ≠ .held)
    (hopen : s.acks.receiverGone = false) (ht : s.passOn? w = some t) :
    Does m s t (d.unlessRefused s.indexer.commands.receiverGone w.unstored) := by
  cases d with
  | done => exact passOn?_acknowledging hphase hopen ht
  | skipped => exact passOn?_acknowledging hphase hopen ht
  | held => exact absurd rfl hheld
  | queued item =>
      have hpassed := passOn?_storing hphase ht
      rw [Disposition.unlessRefused]
      split
      · rename_i hgone
        rwa [if_pos hgone] at hpassed
      · rename_i hgone
        rwa [if_neg hgone] at hpassed
  | failed e =>
      have hpassed : s.passOn? w = some s := by simp only [passOn?, hphase, Disposition.phase]
      obtain rfl := Option.some.inj (hpassed.symm.trans ht)
      have hends : s.phase = .ended (.error (.process e)) := hphase
      show s = { s with phase := .ended (.error (.process e)) }
      rw [← hends]

theorem does_iff (hphase : s.phase = d.phase m) (hheld : d ≠ .held)
    (hopen : s.acks.receiverGone = false) (ht : s.passOn? w = some t) :
    Does m s t d' ↔ d.unlessRefused s.indexer.commands.receiverGone w.unstored = d' := by
  have hdoes := does_of_passOn hphase hheld hopen ht
  constructor
  · intro h
    exact hdoes.unique h
  · rintro rfl
    exact hdoes

end Consumer

namespace Projection

open Consumer

variable {σ : Type} {p : Projection} {month : Calendar.Month} {c : Collaborators} {m : Message}
  {s x y : Consumer σ ProjectionError}

/-! ## What decides -/

/-- What is read of a cluster names an excluded user. -/
def ReadsExcluded (p : Projection) (c : Collaborators) (cluster : String) : Prop :=
  ∃ snapshot user, (c.reads cluster).cluster = .ok snapshot ∧
    snapshot.get? "user_name" = some (.str user) ∧ user ∈ p.excluded

theorem isExcluded_iff {snapshot : Snapshot} :
    p.isExcluded snapshot = true ↔
      ∃ user, snapshot.get? "user_name" = some (.str user) ∧ user ∈ p.excluded := by
  rw [isExcluded]
  cases snapshot.get? "user_name" with
  | none => simp
  | some v => cases v <;> simp [Json.text?]

theorem excludes_iff {cluster : String} : p.Excludes c cluster ↔ p.ReadsExcluded c cluster := by
  rw [Excludes, ReadsExcluded]
  cases (c.reads cluster).cluster with
  | error fault =>
      have hempty : p.isExcluded Object.empty = false := rfl
      simp [foundOr, hempty]
  | ok snapshot => simp [foundOr, isExcluded_iff]

/-- Why an item is not taken: it is refused, or the worker of the indexer is gone. -/
def refusal? (c : Collaborators) (gone : Bool) (item : Bulk.Item Message) : Option BulkError :=
  match c.add item with
  | .error fault => some fault
  | .ok _ => if gone then some .closed else none

theorem refusal?_eq_none_iff {gone : Bool} {item : Bulk.Item Message} :
    refusal? c gone item = none ↔ c.add item = .ok () ∧ gone = false := by
  rw [refusal?]
  cases c.add item <;> simp

theorem refusal?_eq_some_iff {gone : Bool} {item : Bulk.Item Message} {fault : BulkError} :
    refusal? c gone item = some fault ↔
      c.add item = .error fault ∨ c.add item = .ok () ∧ gone = true ∧ fault = .closed := by
  rw [refusal?]
  cases c.add item <;> simp [eq_comm]

/-- The message can never be processed: it is no event, or one without a text that events of
its kind need. -/
def Defective (m : Message) : Prop :=
  m.IsUndecodable ∨ ∃ e, Event.ofBytes m.value = .ok e ∧ e.LacksText

/-- The message can never be processed, or it is the state of an entity and is written. -/
def Completes (c : Collaborators) (m : Message) : Prop :=
  Defective m ∨ ∃ e entity, Event.ofBytes m.value = .ok e ∧ e.IsAbout entity ∧
    c.write ⟨entity, e.payload⟩ = .ok ()

/-- The message is an activity on a cluster of an excluded user. -/
def Omits (p : Projection) (c : Collaborators) (m : Message) : Prop :=
  ∃ e cluster, Event.ofBytes m.value = .ok e ∧ e.kind? = some .activity ∧
    e.payloadText? "cluster_id" = some cluster ∧ p.ReadsExcluded c cluster

/-- The message is any other activity, with the item that stores its document. -/
def Stores (p : Projection) (month : Calendar.Month) (c : Collaborators) (m : Message)
    (item : Bulk.Item Message) : Prop :=
  ∃ e cluster, Event.ofBytes m.value = .ok e ∧ e.kind? = some .activity ∧
    e.payloadText? "cluster_id" = some cluster ∧ ¬ p.ReadsExcluded c cluster ∧
    item = p.item month (p.documentOf c e cluster) m

/-- The message has an unknown name, or it is a state that is not written, or it comes
with an item that is not taken. -/
def Fails (p : Projection) (month : Calendar.Month) (c : Collaborators) (gone : Bool)
    (m : Message) (e : ProjectionError) : Prop :=
  (∃ event, Event.ofBytes m.value = .ok event ∧ event.kind? = none ∧
    e = .unknownEvent event.name) ∨
  (∃ event entity fault, Event.ofBytes m.value = .ok event ∧ event.IsAbout entity ∧
    c.write ⟨entity, event.payload⟩ = .error fault ∧ e = .snapshot fault) ∨
  ∃ item fault, p.Stores month c m item ∧ refusal? c gone item = some fault ∧ e = .store fault

theorem defective_iff : Defective m ↔ m.IsUndecodable ∨ m.IsMalformed := by
  rw [Defective, Message.isMalformed_iff]

theorem leadsTo_of_isAbout {e : Event} {entity : Entity} (he : Event.ofBytes m.value = .ok e)
    (habout : e.IsAbout entity) : m.LeadsTo (.change ⟨entity, e.payload⟩) :=
  ⟨e, he, Event.route_eq_change_iff.2 ⟨habout, rfl⟩⟩

theorem completes_iff : (p.process month c m).disposition = .done ↔ Completes c m := by
  rw [done_iff_write, Completes, defective_iff]
  refine or_congr_right ⟨?_, ?_⟩
  · rintro ⟨⟨entity, payload⟩, ⟨e, he, hroute⟩, hwrite⟩
    obtain ⟨habout, rfl⟩ := Event.route_eq_change_iff.1 hroute
    exact ⟨e, entity, he, habout, hwrite⟩
  · rintro ⟨e, entity, he, habout, hwrite⟩
    exact ⟨_, leadsTo_of_isAbout he habout, hwrite⟩

theorem omits_iff : (p.process month c m).disposition = .skipped ↔ p.Omits c m := by
  rw [disposition_eq_skipped_iff, LeavesOut, Omits]
  simp only [Message.LeadsTo, Event.route_eq_activity_iff, excludes_iff]
  constructor
  · rintro ⟨cluster, ⟨e, he, hkind, hcluster⟩, hout⟩
    exact ⟨e, cluster, he, hkind, hcluster, hout⟩
  · rintro ⟨e, cluster, he, hkind, hcluster, hout⟩
    exact ⟨cluster, ⟨e, he, hkind, hcluster⟩, hout⟩

theorem stores_iff {item : Bulk.Item Message} :
    (p.process month c m).disposition = .queued item ↔
      p.Stores month c m item ∧ c.add item = .ok () := by
  rw [disposition_eq_queued_iff, Stores]
  simp only [Event.route_eq_activity_iff, excludes_iff]
  constructor
  · rintro ⟨e, cluster, he, ⟨hkind, hcluster⟩, hin, hitem, hadd⟩
    exact ⟨⟨e, cluster, he, hkind, hcluster, hin, hitem⟩, hadd⟩
  · rintro ⟨⟨e, cluster, he, hkind, hcluster, hin, hitem⟩, hadd⟩
    exact ⟨e, cluster, he, ⟨hkind, hcluster⟩, hin, hitem, hadd⟩

theorem fails_iff {gone : Bool} {e : ProjectionError} :
    (p.process month c m).disposition = .failed e ∨
        (∃ item, (p.process month c m).disposition = .queued item) ∧ gone = true ∧
          e = .store .closed ↔
      p.Fails month c gone m e := by
  simp only [disposition_eq_failed_iff, stores_iff, Fails, refusal?_eq_some_iff]
  constructor
  · rintro ((⟨name, ⟨event, hevent, hroute⟩, rfl⟩ |
      ⟨⟨entity, payload⟩, fault, ⟨event, hevent, hroute⟩, hwrite, rfl⟩ |
      ⟨event, cluster, fault, hevent, hroute, hin, hadd, rfl⟩) |
      ⟨⟨item, hstores, hadd⟩, hgone, rfl⟩)
    · obtain ⟨hkind, rfl⟩ := Event.route_eq_unknown_iff.1 hroute
      exact .inl ⟨event, hevent, hkind, rfl⟩
    · obtain ⟨habout, rfl⟩ := Event.route_eq_change_iff.1 hroute
      exact .inr (.inl ⟨event, entity, fault, hevent, habout, hwrite, rfl⟩)
    · obtain ⟨hkind, hcluster⟩ := Event.route_eq_activity_iff.1 hroute
      rw [excludes_iff] at hin
      exact .inr (.inr ⟨_, fault, ⟨event, cluster, hevent, hkind, hcluster, hin, rfl⟩, .inl hadd,
        rfl⟩)
    · exact .inr (.inr ⟨item, .closed, hstores, .inr ⟨hadd, hgone, rfl⟩, rfl⟩)
  · rintro (⟨event, hevent, hkind, rfl⟩ | ⟨event, entity, fault, hevent, habout, hwrite, rfl⟩ |
      ⟨item, fault, hstores, hadd | ⟨hadd, hgone, rfl⟩, rfl⟩)
    · have hroute := Event.route_eq_unknown_iff.2 ⟨hkind, rfl⟩
      exact .inl (.inl ⟨_, ⟨event, hevent, hroute⟩, rfl⟩)
    · have hroute := Event.route_eq_change_iff.2 ⟨habout, rfl⟩
      exact .inl (.inr (.inl ⟨_, fault, ⟨event, hevent, hroute⟩, hwrite, rfl⟩))
    · obtain ⟨event, cluster, hevent, hkind, hcluster, hin, rfl⟩ := hstores
      have hroute := Event.route_eq_activity_iff.2 ⟨hkind, hcluster⟩
      rw [← excludes_iff] at hin
      exact .inl (.inr (.inr ⟨event, cluster, fault, hevent, hroute, hin, hadd, rfl⟩))
    · exact .inr ⟨⟨item, hstores, hadd⟩, hgone, rfl⟩

/-! ## One disposition -/

/-- A message is processed with nothing sent yet, and nothing called for unless it can be
processed; what tells the state of an entity is written with one call. When the reader then
passes on what there is, while somebody takes acknowledgments, exactly one thing is done
about the message, and it is not held. Nothing else than the message, the answers of the
snapshots and a refusal decides which. -/
theorem one_disposition (p : Projection) (u : Context σ) (answers : Nat → Bulk.Answer)
    (refuses : Message → Bool) (hnext : s.nextMessage? = some m) :
    ∃ t, s.read? (p.wiring u answers refuses) = some t ∧ t.acks = s.acks ∧
      t.indexer = s.indexer ∧
      (Defective m → (p.outcome u (m, s.state)).calls = []) ∧
      (∀ e entity, Event.ofBytes m.value = .ok e → e.IsAbout entity →
        (p.outcome u (m, s.state)).calls = [.write ⟨entity, e.payload⟩]) ∧
      ∀ x : Consumer σ ProjectionError, x.phase = t.phase → x.acks.receiverGone = false →
        (x.acks.hasRoom = true →
          (x.indexer.commands.receiverGone = true ∨ x.indexer.commands.hasRoom = true) →
          ∃ y, x.passOn? (p.wiring u answers refuses) = some y) ∧
        ∀ y, x.passOn? (p.wiring u answers refuses) = some y →
          (∃! d, Does m x y d) ∧ ¬ Does m x y .held ∧
          (Does m x y .done ↔ Completes (u.helpers m s.state) m) ∧
          (Does m x y .skipped ↔ p.Omits (u.helpers m s.state) m) ∧
          (∀ item, Does m x y (.queued item) ↔
            p.Stores (u.month m s.state) (u.helpers m s.state) m item ∧
              refusal? (u.helpers m s.state) x.indexer.commands.receiverGone item = none) ∧
          ∀ e, Does m x y (.failed e) ↔
            p.Fails (u.month m s.state) (u.helpers m s.state)
              x.indexer.commands.receiverGone m e := by
  obtain ⟨t, ht, hacks, hindexer, hphase⟩ := read?_of_nextMessage? hnext
  refine ⟨t, ht, hacks, hindexer, fun h => calls_of_discarded (defective_iff.1 h),
    fun e entity he habout => calls_of_change (leadsTo_of_isAbout he habout),
    fun x hx hopen => ⟨exists_passOn? _, fun y hy => ?_⟩⟩
  rw [hphase] at hx
  have hdoes (d : Disposition ProjectionError) :
      Does m x y d ↔ (p.outcome u (m, s.state)).disposition.unlessRefused
        x.indexer.commands.receiverGone (.store .closed) = d :=
    does_iff hx disposition_ne_held hopen hy
  refine ⟨⟨_, (hdoes _).2 rfl, fun d h => ((hdoes d).1 h).symm⟩, ?_, ?_, ?_, fun item => ?_,
    fun e => ?_⟩
  · rw [hdoes, Disposition.unlessRefused_eq_held_iff]
    exact disposition_ne_held
  · rw [hdoes, Disposition.unlessRefused_eq_done_iff]
    exact completes_iff
  · rw [hdoes, Disposition.unlessRefused_eq_skipped_iff]
    exact omits_iff
  · rw [hdoes, Disposition.unlessRefused_eq_queued_iff, refusal?_eq_none_iff, ← and_assoc]
    exact and_congr_left' stores_iff
  · rw [hdoes, Disposition.unlessRefused_eq_failed_iff]
    exact fails_iff

section Run

/-- An activity, and nothing else. -/
def arrival : Event :=
  ⟨"Event", .obj (Object.ofList [("cluster_id", .str "c")]), Object.empty⟩

def errand : Plan Unit where
  log := [.carrying arrival 0]
  state := ()

/-- No snapshot can be read. -/
def Context.blind : Context Unit where
  month _ _ := ⟨2024, 1⟩
  helpers _ _ := .failing (.interrupted "")
  keep _ _ _ := ()

/-- An activity of which nothing can be found out is queued all the same. -/
theorem queued_when_blind :
    ∃ t y item,
      errand.start.read? (wiring {} .blind (fun _ => .lost "") fun _ => false) = some t ∧
      t.passOn? (wiring {} .blind (fun _ => .lost "") fun _ => false) = some y ∧
      Does (.carrying arrival 0) t y (.queued item) := by
  have hread : Event.ofBytes (Message.carrying arrival 0).value = .ok arrival :=
    (Message.ofBytes_carrying arrival 0).trans (by decide +kernel)
  have hin : ¬ ReadsExcluded {} (.failing (.interrupted "")) "c" := by
    rintro ⟨snapshot, user, hok, -⟩
    cases hok
  obtain ⟨t, ht, hacks, hindexer, -, -, hpasses⟩ := one_disposition {} .blind (fun _ => .lost "")
    (fun _ => false) (s := errand.start) rfl
  obtain ⟨hmoves, hdoes⟩ := hpasses t rfl (by rw [hacks]; rfl)
  obtain ⟨y, hy⟩ := hmoves (by rw [hacks]; rfl) (.inr (by rw [hindexer]; rfl))
  obtain ⟨-, -, -, -, hqueued, -⟩ := hdoes y hy
  have hstores : Stores {} ⟨2024, 1⟩ (.failing (.interrupted "")) (.carrying arrival 0) _ :=
    ⟨arrival, "c", hread, by decide, by decide, hin, rfl⟩
  refine ⟨t, y, _, ht, hy, (hqueued _).2 ⟨hstores, ?_⟩⟩
  rw [hindexer]
  rfl

end Run

end Projection

end ClusterEvents
