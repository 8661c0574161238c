import ClusterEvents.Projection.Process
import ClusterEvents.Proofs.Text.ByteOrder

/-!
# What messages come to

A message that is processed takes one of eight courses, and it shows in the message, in
what is known of its cluster, and in what the snapshots and the indexer refuse which one.
Those that can never be processed and states that are written are done; activity on
clusters of excluded users is skipped; other activity is queued, unless the indexer takes
nothing. All else fails.
-/

namespace ClusterEvents

namespace Message

/-- The message is no event. -/
def IsUndecodable (m : Message) : Prop :=
  ∃ e, Event.ofBytes m.value = .error e

/-- The message is an event that leads somewhere. -/
def LeadsTo (m : Message) (route : Route) : Prop :=
  ∃ e, Event.ofBytes m.value = .ok e ∧ e.route = route

/-- The message is an event that lacks what events of its kind need. -/
def IsMalformed (m : Message) : Prop :=
  ∃ fault, m.LeadsTo (.malformed fault)

theorem LeadsTo.unique {m : Message} {r r' : Route} (h : m.LeadsTo r) (h' : m.LeadsTo r') :
    r = r' := by
  obtain ⟨e, he, rfl⟩ := h
  obtain ⟨e', he', rfl⟩ := h'
  obtain rfl := Except.ok.inj (he.symm.trans he')
  rfl

theorem LeadsTo.not_undecodable {m : Message} {r : Route} (h : m.LeadsTo r) :
    ¬ m.IsUndecodable := by
  rintro ⟨e', he'⟩
  obtain ⟨e, he, -⟩ := h
  cases he.symm.trans he'

/-- A message of one partition that carries an event. -/
def carrying (e : Event) (offset : Int) : Message :=
  { topic := "events", partition := 0, offset, value := Bytes.ofString e.encode }

theorem ofBytes_carrying (e : Event) (offset : Int) :
    Event.ofBytes (carrying e offset).value =
      (Json.readText (Json.Kind.record Event.fields Json.depthLimit)
        (Glyphs.ofString e.encode)).map Event.ofRecord := by
  rw [Event.ofBytes, Json.ofBytesAs, carrying, Glyphs.ofBytes_ofString]
  cases Json.readText (Json.Kind.record Event.fields Json.depthLimit)
    (Glyphs.ofString e.encode) <;> rfl

end Message

namespace Projection

/-- Whether what can be found of a cluster belongs to an excluded user. -/
def Excludes (p : Projection) (c : Collaborators) (cluster : String) : Prop :=
  p.isExcluded (foundOr Object.empty (c.reads cluster).cluster) = true

theorem isExcluded_of_nil {p : Projection} (h : p.excluded = []) (cluster : Snapshot) :
    p.isExcluded cluster = false := by
  simp [isExcluded, h]

/-- The message is an activity that is left out. -/
def LeavesOut (p : Projection) (c : Collaborators) (m : Message) : Prop :=
  ∃ cluster, m.LeadsTo (.activity cluster) ∧ p.Excludes c cluster

/-- The courses that a message can take. -/
inductive Course (p : Projection) (month : Calendar.Month) (c : Collaborators)
    (m : Message) : Processed → Prop
  | undecodable (h : m.IsUndecodable) : Course p month c m ⟨.done, [], none⟩
  | malformed (h : m.IsMalformed) : Course p month c m ⟨.done, [], none⟩
  | unknown {name : String} (h : m.LeadsTo (.unknown name)) :
      Course p month c m ⟨.failed (.unknownEvent name), [], none⟩
  | written {change : StateChange} (h : m.LeadsTo (.change change))
      (hwrite : c.write change = .ok ()) :
      Course p month c m ⟨.done, [.write change], some change⟩
  | unwritten {change : StateChange} {e : SnapshotError} (h : m.LeadsTo (.change change))
      (hwrite : c.write change = .error e) :
      Course p month c m ⟨.failed (.snapshot e), [.write change], none⟩
  | leftOut {cluster : String} (h : m.LeadsTo (.activity cluster))
      (hout : p.Excludes c cluster) :
      Course p month c m ⟨.skipped, [.readCluster cluster], none⟩
  | queued {cluster : String} {document : EnrichedEvent} (h : m.LeadsTo (.activity cluster))
      (hin : ¬ p.Excludes c cluster) (hadd : c.add (p.item month document m) = .ok ()) :
      Course p month c m ⟨.queued (p.item month document m),
        [.readCluster cluster, .readHosts cluster, .readInfraEnvs cluster], none⟩
  | unqueued {cluster : String} {document : EnrichedEvent} {e : BulkError}
      (h : m.LeadsTo (.activity cluster)) (hin : ¬ p.Excludes c cluster)
      (hadd : c.add (p.item month document m) = .error e) :
      Course p month c m ⟨.failed (.store e),
        [.readCluster cluster, .readHosts cluster, .readInfraEnvs cluster], none⟩

variable {p : Projection} {month : Calendar.Month} {c : Collaborators} {m : Message}

/-- Every message takes one of the courses. -/
theorem course (p : Projection) (month : Calendar.Month) (c : Collaborators) (m : Message) :
    Course p month c m (p.process month c m) := by
  unfold process decideBytes
  cases hdecode : Event.ofBytes m.value with
  | error e => exact .undecodable ⟨e, hdecode⟩
  | ok e =>
      simp only [decide]
      cases hroute : e.route with
      | unknown name => exact .unknown ⟨e, hdecode, hroute⟩
      | malformed fault => exact .malformed ⟨fault, e, hdecode, hroute⟩
      | change change =>
          simp only [carryOut]
          cases hwrite : c.write change with
          | ok u => exact .written ⟨e, hdecode, hroute⟩ hwrite
          | error fault => exact .unwritten ⟨e, hdecode, hroute⟩ hwrite
      | activity cluster =>
          have hleads : m.LeadsTo (.activity cluster) := ⟨e, hdecode, hroute⟩
          dsimp only
          by_cases hout :
              p.isExcluded (foundOr Object.empty (c.reads cluster).cluster) = true
          · rw [if_pos hout]
            exact .leftOut hleads hout
          · rw [if_neg hout]
            simp only [carryOut]
            split
            · rename_i hadd
              exact .queued hleads hout hadd
            · rename_i hadd
              exact .unqueued hleads hout hadd

/-! ### By where a message leads -/

theorem process_of_discarded (h : m.IsUndecodable ∨ m.IsMalformed) :
    p.process month c m = ⟨.done, [], none⟩ := by
  rcases h with ⟨e, he⟩ | ⟨fault, e, he, hroute⟩
  · simp only [process, decideBytes, he]
    rfl
  · simp only [process, decideBytes, he, decide, hroute]
    rfl

theorem process_of_unknown {name : String} (h : m.LeadsTo (.unknown name)) :
    p.process month c m = ⟨.failed (.unknownEvent name), [], none⟩ := by
  obtain ⟨e, he, hroute⟩ := h
  simp only [process, decideBytes, he, decide, hroute]
  rfl

theorem process_of_change {change : StateChange} (h : m.LeadsTo (.change change)) :
    p.process month c m = p.carryOut month c m (.update change) := by
  obtain ⟨e, he, hroute⟩ := h
  simp only [process, decideBytes, he, decide, hroute]

theorem process_of_written {change : StateChange} (h : m.LeadsTo (.change change))
    (hwrite : c.write change = .ok ()) :
    p.process month c m = ⟨.done, [.write change], some change⟩ := by
  rw [process_of_change h]
  simp only [carryOut, hwrite]
  rfl

theorem process_of_unwritten {change : StateChange} {fault : SnapshotError}
    (h : m.LeadsTo (.change change)) (hwrite : c.write change = .error fault) :
    p.process month c m = ⟨.failed (.snapshot fault), [.write change], none⟩ := by
  rw [process_of_change h]
  simp only [carryOut, hwrite]
  rfl

theorem process_of_excludes {cluster : String} (h : m.LeadsTo (.activity cluster))
    (hout : p.Excludes c cluster) :
    p.process month c m = ⟨.skipped, [.readCluster cluster], none⟩ := by
  obtain ⟨e, he, hroute⟩ := h
  have hout' : p.isExcluded (foundOr Object.empty (c.reads cluster).cluster) = true := hout
  simp only [process, decideBytes, he, decide, hroute, if_pos hout']
  rfl

/-- The document for an activity on a cluster, out of what can be found. -/
def documentOf (p : Projection) (c : Collaborators) (e : Event) (cluster : String) :
    EnrichedEvent :=
  EnrichedEvent.enrich p.rules e (foundOr Object.empty (c.reads cluster).cluster)
    (foundOr [] (c.reads cluster).hosts) (foundOr [] (c.reads cluster).infraEnvs)

theorem process_of_not_excludes {e : Event} {cluster : String}
    (he : Event.ofBytes m.value = .ok e) (hroute : e.route = .activity cluster)
    (hin : ¬ p.Excludes c cluster) :
    p.process month c m = p.carryOut month c m (.store cluster (p.documentOf c e cluster)) := by
  have hin' : ¬ p.isExcluded (foundOr Object.empty (c.reads cluster).cluster) = true := hin
  simp only [process, decideBytes, he, decide, hroute, if_neg hin']
  rfl

/-! ### Dispositions -/

theorem done_iff_write :
    (p.process month c m).disposition = .done ↔
      (m.IsUndecodable ∨ m.IsMalformed) ∨
        ∃ change, m.LeadsTo (.change change) ∧ c.write change = .ok () := by
  constructor
  · intro hdone
    have hcourse := course p month c m
    generalize p.process month c m = outcome at hcourse hdone
    cases hcourse with
    | undecodable h => exact .inl (.inl h)
    | malformed h => exact .inl (.inr h)
    | written h hwrite => exact .inr ⟨_, h, hwrite⟩
    | _ => cases hdone
  · rintro (hdiscarded | ⟨change, hchange, hwrite⟩)
    · rw [process_of_discarded hdiscarded]
    · rw [process_of_written hchange hwrite]

theorem disposition_eq_done_iff :
    (p.process month c m).disposition = .done ↔
      m.IsUndecodable ∨ m.IsMalformed ∨
        ∃ change, m.LeadsTo (.change change) ∧
          (p.process month c m).written = some change := by
  rw [done_iff_write, or_assoc]
  refine or_congr_right (or_congr_right (exists_congr fun change => and_congr_right fun h => ?_))
  cases hwrite : c.write change with
  | ok u => simp [process_of_written h hwrite]
  | error fault => simp [process_of_unwritten h hwrite]

/-- Nothing is called for a message that can never be processed. -/
theorem calls_of_discarded (h : m.IsUndecodable ∨ m.IsMalformed) :
    (p.process month c m).calls = [] := by
  rw [process_of_discarded h]

/-- For a state there is one call, which writes it, whether it succeeds or not. -/
theorem calls_of_change {change : StateChange} (h : m.LeadsTo (.change change)) :
    (p.process month c m).calls = [.write change] := by
  cases hwrite : c.write change with
  | ok u => rw [process_of_written h hwrite]
  | error fault => rw [process_of_unwritten h hwrite]

theorem disposition_eq_skipped_iff :
    (p.process month c m).disposition = .skipped ↔ p.LeavesOut c m := by
  constructor
  · intro hskipped
    have hcourse := course p month c m
    generalize p.process month c m = outcome at hcourse hskipped
    cases hcourse with
    | leftOut h hout => exact ⟨_, h, hout⟩
    | _ => cases hskipped
  · rintro ⟨cluster, hactivity, hout⟩
    rw [process_of_excludes hactivity hout]

theorem carryOut_store_eq_queued_iff {cluster : String} {document : EnrichedEvent}
    {item : Bulk.Item Message} :
    (p.carryOut month c m (.store cluster document)).disposition = .queued item ↔
      item = p.item month document m ∧ c.add item = .ok () := by
  rw [carryOut]
  cases hadd : c.add (p.item month document m) with
  | ok u =>
      constructor
      · rintro ⟨⟩
        exact ⟨rfl, hadd⟩
      · rintro ⟨rfl, -⟩
        rfl
  | error e =>
      constructor
      · rintro ⟨⟩
      · rintro ⟨rfl, hok⟩
        cases hadd.symm.trans hok

/-- The item that is queued stores the document of an activity. -/
theorem disposition_eq_queued_iff {item : Bulk.Item Message} :
    (p.process month c m).disposition = .queued item ↔
      ∃ e cluster, Event.ofBytes m.value = .ok e ∧ e.route = .activity cluster ∧
        ¬ p.Excludes c cluster ∧ item = p.item month (p.documentOf c e cluster) m ∧
        c.add item = .ok () := by
  constructor
  · intro hqueued
    have hin : ∃ cluster, m.LeadsTo (.activity cluster) ∧ ¬ p.Excludes c cluster := by
      have hcourse := course p month c m
      generalize p.process month c m = outcome at hcourse hqueued
      cases hcourse with
      | queued h hin _ => exact ⟨_, h, hin⟩
      | _ => cases hqueued
    obtain ⟨cluster, ⟨e, he, hroute⟩, hin⟩ := hin
    rw [process_of_not_excludes he hroute hin, carryOut_store_eq_queued_iff] at hqueued
    exact ⟨e, cluster, he, hroute, hin, hqueued⟩
  · rintro ⟨e, cluster, he, hroute, hin, hitem⟩
    rw [process_of_not_excludes he hroute hin, carryOut_store_eq_queued_iff]
    exact hitem

theorem carryOut_store_eq_failed_iff {cluster : String} {document : EnrichedEvent}
    {e : ProjectionError} :
    (p.carryOut month c m (.store cluster document)).disposition = .failed e ↔
      ∃ fault, c.add (p.item month document m) = .error fault ∧ e = .store fault := by
  rw [carryOut]
  cases hadd : c.add (p.item month document m) <;> simp [eq_comm]

/-- What fails has no known name, is a state that cannot be written, or comes with a
document that is refused. -/
theorem disposition_eq_failed_iff {e : ProjectionError} :
    (p.process month c m).disposition = .failed e ↔
      (∃ name, m.LeadsTo (.unknown name) ∧ e = .unknownEvent name) ∨
      (∃ change fault, m.LeadsTo (.change change) ∧ c.write change = .error fault ∧
        e = .snapshot fault) ∨
      ∃ event cluster fault, Event.ofBytes m.value = .ok event ∧
        event.route = .activity cluster ∧ ¬ p.Excludes c cluster ∧
        c.add (p.item month (p.documentOf c event cluster) m) = .error fault ∧
        e = .store fault := by
  constructor
  · intro hfailed
    have hcourse := course p month c m
    generalize houtcome : p.process month c m = outcome at hcourse
    rw [houtcome] at hfailed
    cases hcourse with
    | unknown h =>
        obtain ⟨⟩ := hfailed
        exact .inl ⟨_, h, rfl⟩
    | unwritten h hwrite =>
        obtain ⟨⟩ := hfailed
        exact .inr (.inl ⟨_, _, h, hwrite, rfl⟩)
    | unqueued h hin _ =>
        obtain ⟨event, hevent, hroute⟩ := h
        rw [← houtcome, process_of_not_excludes hevent hroute hin,
          carryOut_store_eq_failed_iff] at hfailed
        obtain ⟨fault, hadd, rfl⟩ := hfailed
        exact .inr (.inr ⟨event, _, fault, hevent, hroute, hin, hadd, rfl⟩)
    | _ => cases hfailed
  · rintro (⟨name, hname, rfl⟩ | ⟨change, fault, hchange, hwrite, rfl⟩ |
      ⟨event, cluster, fault, hevent, hroute, hin, hadd, rfl⟩)
    · rw [process_of_unknown hname]
    · rw [process_of_unwritten hchange hwrite]
    · rw [process_of_not_excludes hevent hroute hin, carryOut_store_eq_failed_iff]
      exact ⟨fault, hadd, rfl⟩

theorem ticket_of_queued {item : Bulk.Item Message}
    (h : (p.process month c m).disposition = .queued item) : item.ticket = m := by
  have hcourse := course p month c m
  generalize p.process month c m = outcome at hcourse h
  cases hcourse with
  | queued _ _ _ =>
      obtain ⟨⟩ := h
      rfl
  | _ => cases h

theorem disposition_ne_held : (p.process month c m).disposition ≠ .held := by
  have hcourse := course p month c m
  generalize p.process month c m = outcome at hcourse ⊢
  cases hcourse <;> exact fun h => by cases h

end Projection

end ClusterEvents
