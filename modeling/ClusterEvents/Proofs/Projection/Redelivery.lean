import ClusterEvents.Proofs.Calendar.Months
import ClusterEvents.Proofs.Enriched.Documents
import ClusterEvents.Proofs.Projection.Dispositions

/-!
# Activity that is delivered again

Where the document of an activity goes is decided by the activity alone, as far as it
says when it happened: whatever is known of the cluster by then, an activity that is
delivered again replaces its document. Without a readable time the document goes to the
index of the month in which it is processed, under an identifier that stays the same.
-/

namespace ClusterEvents

namespace EnrichedEvent

theorem indexName_eq_indexName_iff (beginning eventTime : String) (now now' : Calendar.Month) :
    indexName beginning eventTime now = indexName beginning eventTime now' ↔
      (Calendar.Stamp.ofText? eventTime).isSome ∨ now = now' := by
  rw [indexName, indexName]
  cases Calendar.Stamp.ofText? eventTime with
  | some stamp => simp
  | none => simp [Calendar.Month.text_inj]

end EnrichedEvent

namespace Projection

variable {p : Projection} {month month' : Calendar.Month} {c c' : Collaborators}
  {m m' : Message} {e : Event} {item item' : Bulk.Item Message}

theorem exists_enrich_of_queued (he : Event.ofBytes m.value = .ok e)
    (h : (p.process month c m).disposition = .queued item) :
    ∃ cluster hosts infraEnvs,
      item = p.item month (EnrichedEvent.enrich p.rules e cluster hosts infraEnvs) m := by
  obtain ⟨e', cluster, he', -, -, hitem, -⟩ := disposition_eq_queued_iff.1 h
  obtain rfl := Except.ok.inj (he.symm.trans he')
  exact ⟨_, _, _, hitem⟩

/-- Under the standard rules, the items for two deliveries of one activity have the same
identifier, and the same index exactly when the activity has a readable time or both are
processed in one month. -/
theorem redelivery_same_place (hrules : p.rules = .standard)
    (he : Event.ofBytes m.value = .ok e) (he' : Event.ofBytes m'.value = .ok e)
    (h : (p.process month c m).disposition = .queued item)
    (h' : (p.process month' c' m').disposition = .queued item') :
    item.id = item'.id ∧
      (item.index = item'.index ↔
        (Calendar.Stamp.ofText? (EnrichedEvent.payloadText e "event_time")).isSome ∨
          month = month') := by
  obtain ⟨cluster, hosts, infraEnvs, rfl⟩ := exists_enrich_of_queued he h
  obtain ⟨cluster', hosts', infraEnvs', rfl⟩ := exists_enrich_of_queued he' h'
  simp only [Projection.item, hrules, EnrichedEvent.id_enrich_standard,
    EnrichedEvent.eventTime_enrich_standard, EnrichedEvent.indexName_eq_indexName_iff, and_self]

section Run

/-- An activity on a cluster, with something for the time it happened at. -/
def activityAt (eventTime : String) : Event :=
  ⟨"Event", .obj (Object.ofList [("cluster_id", .str "c"), ("event_time", .str eventTime)]),
    Object.empty⟩

/-- A cluster without hosts, and an indexer that takes everything. -/
def knowing (cluster : Snapshot) : Collaborators where
  reads := fun _ => ⟨.ok cluster, .ok [], .ok []⟩
  write := fun _ => .ok ()
  add := fun _ => .ok ()

theorem queued_of_knowing {offset : Int} {cluster : String}
    (he : Event.ofBytes (Message.carrying e offset).value = .ok e)
    (hroute : e.route = .activity cluster) (known : Snapshot) (month : Calendar.Month) :
    (process {} month (knowing known) (.carrying e offset)).disposition =
      .queued (Projection.item {} month (EnrichedEvent.enrich .standard e known [] [])
        (.carrying e offset)) :=
  disposition_eq_queued_iff.2
    ⟨e, cluster, he, hroute, Bool.eq_false_iff.1 (isExcluded_of_nil rfl _), rfl, rfl⟩

/-- A document that is written once more, a month later and with more known of the
cluster. -/
theorem redelivered_next_month :
    ∃ item item',
      (process {} ⟨2024, 1⟩ (knowing Object.empty)
        (.carrying (activityAt "2023-01-27T03:40:08Z") 0)).disposition = .queued item ∧
      (process {} ⟨2024, 2⟩ (knowing (Object.ofList [("id", .str "c")]))
        (.carrying (activityAt "2023-01-27T03:40:08Z") 0)).disposition = .queued item' ∧
      item.id = item'.id ∧ item.index = item'.index := by
  have he : Event.ofBytes (Message.carrying (activityAt "2023-01-27T03:40:08Z") 0).value =
      .ok (activityAt "2023-01-27T03:40:08Z") :=
    (Message.ofBytes_carrying ..).trans (by decide +kernel)
  have hroute : (activityAt "2023-01-27T03:40:08Z").route = .activity "c" := by decide +kernel
  have h := queued_of_knowing he hroute Object.empty ⟨2024, 1⟩
  have h' := queued_of_knowing he hroute (Object.ofList [("id", .str "c")]) ⟨2024, 2⟩
  obtain ⟨hid, hindex⟩ := redelivery_same_place rfl he he h h'
  exact ⟨_, _, h, h', hid, hindex.2 (.inl (by decide +kernel))⟩

/-- Without a readable time, the clock decides on the index. -/
theorem redelivery_moves_index :
    ¬ ∀ (p : Projection) (month month' : Calendar.Month) (c c' : Collaborators)
      (m m' : Message) (e : Event) (item item' : Bulk.Item Message),
      p.rules = .standard → Event.ofBytes m.value = .ok e → Event.ofBytes m'.value = .ok e →
      (p.process month c m).disposition = .queued item →
      (p.process month' c' m').disposition = .queued item' →
      item.id = item'.id ∧ item.index = item'.index := by
  intro hall
  have he : Event.ofBytes (Message.carrying (activityAt "soon") 0).value =
      .ok (activityAt "soon") :=
    (Message.ofBytes_carrying ..).trans (by decide +kernel)
  have hroute : (activityAt "soon").route = .activity "c" := by decide +kernel
  have h := queued_of_knowing he hroute Object.empty ⟨2024, 1⟩
  have h' := queued_of_knowing he hroute Object.empty ⟨2024, 2⟩
  have hindex := (hall _ _ _ _ _ _ _ _ _ _ rfl he he h h').2
  rw [Projection.item, Projection.item, EnrichedEvent.eventTime_enrich_standard,
    EnrichedEvent.indexName_eq_indexName_iff] at hindex
  revert hindex
  decide +kernel

end Run

end Projection

end ClusterEvents
