import Mathlib.Tactic.Simproc.ExistsAndEq
import ClusterEvents.Proofs.Projection.Dispositions

/-!
# What messages tell of entities

A message tells the state of an entity when it is an event of the entity's kind that names
it: a cluster by its identifier, a host or an infra-env by its own and by that of its
cluster. Where an event leads says the same (`route_eq_change_iff`,
`route_eq_activity_iff`), so a message tells of one entity at most, and a message that
changes a state tells it. It leads nowhere when its name is unknown, or when it has no
text where events of its kind need one (`exists_route_eq_malformed_iff`).
-/

namespace ClusterEvents

namespace Event

variable {e : Event} {entity : Entity}

/-- Whether an event is about the state of an entity. -/
def IsAbout (e : Event) : Entity → Prop
  | .cluster id => e.kind? = some .clusterState ∧ e.payloadText? "id" = some id
  | .host cluster id =>
      e.kind? = some .hostState ∧ e.payloadText? "id" = some id ∧
        e.payloadText? "cluster_id" = some cluster
  | .infraEnv cluster id =>
      e.kind? = some .infraEnvState ∧ e.payloadText? "id" = some id ∧
        e.payloadText? "cluster_id" = some cluster

instance (e : Event) : (entity : Entity) → Decidable (e.IsAbout entity)
  | .cluster _ => inferInstanceAs (Decidable (_ ∧ _))
  | .host _ _ => inferInstanceAs (Decidable (_ ∧ _ ∧ _))
  | .infraEnv _ _ => inferInstanceAs (Decidable (_ ∧ _ ∧ _))

theorem entity_eq_ok_iff {make : String → String → Entity} :
    e.entity make = .ok entity ↔
      ∃ id cluster, e.payloadText? "id" = some id ∧ e.payloadText? "cluster_id" = some cluster ∧
        make cluster id = entity := by
  rw [Event.entity, requireText, requireText]
  cases e.payloadText? "id" with
  | none => simp [bind, Except.bind]
  | some id => cases e.payloadText? "cluster_id" <;> simp [bind, Except.bind]

theorem map_cluster_eq_ok_iff :
    (e.requireText "id").map Entity.cluster = .ok entity ↔
      ∃ id, e.payloadText? "id" = some id ∧ .cluster id = entity := by
  rw [requireText]
  cases e.payloadText? "id" <;> simp [Except.map]

theorem changeOf_eq_change_iff {found : Except Malformed Entity} {payload : Json} :
    e.changeOf found = .change ⟨entity, payload⟩ ↔ found = .ok entity ∧ e.payload = payload := by
  cases found <;> simp [changeOf]

theorem changeOf_ne_activity {found : Except Malformed Entity} {cluster : String} :
    e.changeOf found ≠ .activity cluster := by
  cases found <;> simp [changeOf]

theorem route_eq_activity_iff {cluster : String} :
    e.route = .activity cluster ↔
      e.kind? = some .activity ∧ e.payloadText? "cluster_id" = some cluster := by
  rw [route]
  cases e.kind? with
  | none => simp
  | some kind =>
      cases kind with
      | activity =>
          rw [requireText]
          cases e.payloadText? "cluster_id" <;> simp
      | clusterState => simp [changeOf_ne_activity]
      | hostState => simp [changeOf_ne_activity]
      | infraEnvState => simp [changeOf_ne_activity]

theorem route_eq_change_iff {payload : Json} :
    e.route = .change ⟨entity, payload⟩ ↔ e.IsAbout entity ∧ e.payload = payload := by
  rw [route]
  cases hkind : e.kind? with
  | none => cases entity <;> simp [IsAbout, hkind]
  | some kind =>
      cases kind with
      | activity =>
          rw [requireText]
          cases entity <;> cases e.payloadText? "cluster_id" <;> simp [IsAbout, hkind]
      | clusterState =>
          rw [changeOf_eq_change_iff, map_cluster_eq_ok_iff]
          cases entity <;> simp [IsAbout, hkind]
      | hostState =>
          rw [changeOf_eq_change_iff, entity_eq_ok_iff]
          cases entity <;> simp [IsAbout, hkind]
      | infraEnvState =>
          rw [changeOf_eq_change_iff, entity_eq_ok_iff]
          cases entity <;> simp [IsAbout, hkind]

/-- The keys under which events of a kind need texts. -/
def Kind.neededKeys : Kind → List String
  | .activity => ["cluster_id"]
  | .clusterState => ["id"]
  | .hostState | .infraEnvState => ["id", "cluster_id"]

/-- The name of the event is known, but there is no text under a key that it needs. -/
def LacksText (e : Event) : Prop :=
  ∃ kind, e.kind? = some kind ∧ ∃ key ∈ kind.neededKeys, e.payloadText? key = none

theorem changeOf_eq_malformed_iff {found : Except Malformed Entity} {fault : Malformed} :
    e.changeOf found = .malformed fault ↔ found = .error fault := by
  cases found <;> simp [changeOf]

theorem exists_entity_eq_error_iff {make : String → String → Entity} :
    (∃ fault, e.entity make = .error fault) ↔
      e.payloadText? "id" = none ∨ e.payloadText? "cluster_id" = none := by
  rw [Event.entity, requireText, requireText]
  cases e.payloadText? "id" with
  | none => simp [bind, Except.bind]
  | some id => cases e.payloadText? "cluster_id" <;> simp [bind, Except.bind]

theorem exists_map_cluster_eq_error_iff :
    (∃ fault, (e.requireText "id").map Entity.cluster = .error fault) ↔
      e.payloadText? "id" = none := by
  rw [requireText]
  cases e.payloadText? "id" <;> simp [Except.map]

theorem exists_route_eq_malformed_iff : (∃ fault, e.route = .malformed fault) ↔ e.LacksText := by
  rw [route]
  cases hkind : e.kind? with
  | none => simp [LacksText, hkind]
  | some kind =>
      cases kind with
      | activity =>
          rw [requireText]
          cases htext : e.payloadText? "cluster_id" <;>
            simp [LacksText, hkind, Kind.neededKeys, htext]
      | clusterState =>
          simp only [changeOf_eq_malformed_iff, exists_map_cluster_eq_error_iff]
          simp [LacksText, hkind, Kind.neededKeys]
      | hostState =>
          simp only [changeOf_eq_malformed_iff, exists_entity_eq_error_iff]
          simp [LacksText, hkind, Kind.neededKeys]
      | infraEnvState =>
          simp only [changeOf_eq_malformed_iff, exists_entity_eq_error_iff]
          simp [LacksText, hkind, Kind.neededKeys]

theorem changeOf_ne_unknown {found : Except Malformed Entity} {name : String} :
    e.changeOf found ≠ .unknown name := by
  cases found <;> simp [changeOf]

theorem route_eq_unknown_iff {name : String} :
    e.route = .unknown name ↔ e.kind? = none ∧ e.name = name := by
  rw [route]
  cases e.kind? with
  | none => simp
  | some kind =>
      cases kind with
      | activity =>
          rw [requireText]
          cases e.payloadText? "cluster_id" <;> simp
      | clusterState => simp [changeOf_ne_unknown]
      | hostState => simp [changeOf_ne_unknown]
      | infraEnvState => simp [changeOf_ne_unknown]

theorem IsAbout.exists_object (h : e.IsAbout entity) : ∃ o, e.payload = .obj o := by
  have hid : ∃ id, e.payloadText? "id" = some id := by
    cases entity with
    | cluster id => exact ⟨id, h.2⟩
    | host cluster id => exact ⟨id, h.2.1⟩
    | infraEnv cluster id => exact ⟨id, h.2.1⟩
  obtain ⟨id, hid⟩ := hid
  rw [payloadText?] at hid
  cases hpayload : e.payload with
  | obj o => exact ⟨o, rfl⟩
  | _ =>
      rw [hpayload] at hid
      cases hid

end Event

namespace Message

theorem isMalformed_iff {m : Message} :
    m.IsMalformed ↔ ∃ e, Event.ofBytes m.value = .ok e ∧ e.LacksText := by
  simp only [IsMalformed, LeadsTo, ← Event.exists_route_eq_malformed_iff]
  constructor
  · rintro ⟨fault, e, he, hroute⟩
    exact ⟨e, he, fault, hroute⟩
  · rintro ⟨e, he, fault, hroute⟩
    exact ⟨fault, e, he, hroute⟩

variable {m : Message} {entity : Entity} {snapshot : Snapshot}

/-- What a message tells of the state of an entity. -/
def stateOf? (m : Message) (entity : Entity) : Option Snapshot :=
  match Event.ofBytes m.value with
  | .ok e => if e.IsAbout entity then e.payload.object? else none
  | .error _ => none

theorem stateOf?_eq_some_iff :
    m.stateOf? entity = some snapshot ↔ m.LeadsTo (.change ⟨entity, .obj snapshot⟩) := by
  constructor
  · intro h
    rw [stateOf?] at h
    split at h
    · rename_i e he
      split at h
      · rename_i habout
        obtain ⟨o, ho⟩ := habout.exists_object
        rw [ho] at h
        obtain rfl := Option.some.inj h
        exact ⟨e, he, Event.route_eq_change_iff.2 ⟨habout, ho⟩⟩
      · cases h
    · cases h
  · rintro ⟨e, he, hroute⟩
    obtain ⟨habout, hpayload⟩ := Event.route_eq_change_iff.1 hroute
    simp [stateOf?, he, habout, hpayload, Json.object?]

/-- A message tells of one entity at most. -/
theorem LeadsTo.stateOf?_eq (h : m.LeadsTo (.change ⟨entity, .obj snapshot⟩)) (other : Entity) :
    m.stateOf? other = if other = entity then some snapshot else none := by
  split
  · rename_i heq
    rw [heq, stateOf?_eq_some_iff]
    exact h
  · rename_i hne
    rw [Option.eq_none_iff_forall_ne_some]
    intro snapshot' htells
    obtain ⟨⟩ := (stateOf?_eq_some_iff.1 htells).unique h
    exact hne rfl

theorem LeadsTo.exists_snapshot {change : StateChange} (h : m.LeadsTo (.change change)) :
    ∃ snapshot, change.payload = .obj snapshot := by
  obtain ⟨e, -, hroute⟩ := h
  obtain ⟨habout, hpayload⟩ := Event.route_eq_change_iff.1 hroute
  exact hpayload ▸ habout.exists_object

end Message

/-- What the last of several messages tells that tells anything of an entity. -/
def latest? (messages : List Message) (entity : Entity) : Option Snapshot :=
  messages.reverse.findSome? (·.stateOf? entity)

theorem latest?_concat (messages : List Message) (m : Message) (entity : Entity) :
    latest? (messages ++ [m]) entity = (m.stateOf? entity).or (latest? messages entity) := by
  rw [latest?, latest?, List.reverse_concat, List.findSome?_cons]
  cases m.stateOf? entity <;> rfl

theorem exists_of_latest? {messages : List Message} {entity : Entity} {snapshot : Snapshot}
    (h : latest? messages entity = some snapshot) :
    ∃ m ∈ messages, m.stateOf? entity = some snapshot := by
  obtain ⟨m, hm, htells⟩ := List.exists_of_findSome?_eq_some h
  exact ⟨m, List.mem_reverse.1 hm, htells⟩

end ClusterEvents
