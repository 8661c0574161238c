import Mathlib.Data.List.Sort
import ClusterEvents.Proofs.Snapshots.Holdings
import ClusterEvents.Proofs.Text.ByteOrder
import ClusterEvents.Proofs.Json.RoundTrip

/-!
# What stores know of entities

The texts that a store holds are those of the payloads that were written for entities. No
two entities share group and identifier, so writing a payload for one leaves those of all
others as they were. What is recorded for a cluster is read back as it was written, and so
is what is recorded for the hosts of a cluster and for its infra-envs, each list in the
order of the bytes of the identifiers. What is no object is recorded, and is left out when
it is read. A store that records nothing else knows of each entity a snapshot at most.
-/

namespace ClusterEvents

namespace Entity

theorem hostsGroup_ne_clustersGroup (cluster : String) : hostsGroup cluster ≠ clustersGroup := by
  intro h
  have hlist := congrArg String.toList h
  simp [hostsGroup, clustersGroup] at hlist

theorem infraEnvsGroup_ne_clustersGroup (cluster : String) :
    infraEnvsGroup cluster ≠ clustersGroup := by
  intro h
  have hlist := congrArg String.toList h
  simp [infraEnvsGroup, clustersGroup] at hlist

theorem hostsGroup_ne_infraEnvsGroup (cluster other : String) :
    hostsGroup cluster ≠ infraEnvsGroup other := by
  intro h
  have hlist := congrArg String.toList h
  simp [hostsGroup, infraEnvsGroup] at hlist

theorem eq_of_group_of_id {entity other : Entity} (hgroup : entity.group = other.group)
    (hid : entity.id = other.id) : entity = other := by
  cases entity with
  | cluster i =>
      cases other with
      | cluster j => exact congrArg cluster hid
      | host c j => exact absurd hgroup.symm (hostsGroup_ne_clustersGroup c)
      | infraEnv c j => exact absurd hgroup.symm (infraEnvsGroup_ne_clustersGroup c)
  | host c i =>
      cases other with
      | cluster j => exact absurd hgroup (hostsGroup_ne_clustersGroup c)
      | host c' j =>
          obtain rfl : c = c' := by simpa [group, hostsGroup] using hgroup
          exact congrArg (host c) hid
      | infraEnv c' j => exact absurd hgroup (hostsGroup_ne_infraEnvsGroup c c')
  | infraEnv c i =>
      cases other with
      | cluster j => exact absurd hgroup (infraEnvsGroup_ne_clustersGroup c)
      | host c' j => exact absurd hgroup.symm (hostsGroup_ne_infraEnvsGroup c' c)
      | infraEnv c' j =>
          obtain rfl : c = c' := by simpa [group, infraEnvsGroup] using hgroup
          exact congrArg (infraEnv c) hid

end Entity

/-- The value can be read from the text it is written as. -/
def Json.ReadsBack (v : Json) : Prop :=
  Json.ofText v.print = .ok v

instance (v : Json) : Decidable v.ReadsBack :=
  inferInstanceAs (Decidable (Json.ofText v.print = .ok v))

/-- Whatever has integers of sixty-four bits for numbers is read back, unless it nests too
deep. -/
theorem Json.readsBack_of_isWhole {v : Json} (hwhole : v.isWhole = true)
    (hdepth : v.depth ≤ Json.depthLimit) : v.ReadsBack :=
  Json.ofText_print hwhole hdepth

/-- The object can be read from the text it is written as. -/
def Members.ReadsBack (o : Object) : Prop :=
  Json.ofText (Json.obj o).print = .ok (.obj o)

/-- The snapshots are those that are known, one for each identifier, in ascending order of
the identifiers' bytes. -/
def Lists (known : String → Option Snapshot) (snapshots : List Snapshot) : Prop :=
  ∃ ids : List String, ids.Pairwise (fun a b => Bytes.ofString a < Bytes.ofString b) ∧
    (∀ id, id ∈ ids ↔ (known id).isSome) ∧ snapshots.map some = ids.map known

/-- There is one such list. -/
theorem Lists.unique {known : String → Option Snapshot} {snapshots others : List Snapshot}
    (h : Lists known snapshots) (h' : Lists known others) : snapshots = others := by
  obtain ⟨ids, hids, hmem, hsnapshots⟩ := h
  obtain ⟨ids', hids', hmem', hothers⟩ := h'
  have hantisymm : Std.Antisymm fun a b : String => Bytes.ofString a < Bytes.ofString b :=
    ⟨fun _ _ hab hba => absurd hba (List.lt_asymm hab)⟩
  have hirrefl : Std.Irrefl fun a b : String => Bytes.ofString a < Bytes.ofString b :=
    ⟨fun _ => List.lt_irrefl _⟩
  have heq : ids = ids' := hids.eq_of_mem_iff hids' fun id => (hmem id).trans (hmem' id).symm
  rw [heq, ← hothers] at hsnapshots
  exact List.map_injective_iff.2 (Option.some_injective Snapshot) hsnapshots

namespace SnapshotStore

variable {s : SnapshotStore} {now : Int}

/-! ## Payloads -/

section Payloads

variable {payloads : Entity → Option Json}

/-- What the store holds are the texts of these payloads. -/
def Records (s : SnapshotStore) (payloads : Entity → Option Json) : Prop :=
  ∃ texts, s.Holds texts ∧
    ∀ entity : Entity, texts entity.group entity.id = (payloads entity).map Json.print

theorem records_of_isEmpty (h : s.IsEmpty) : s.Records fun _ => none :=
  ⟨fun _ _ => none, holds_of_isEmpty h, fun _ => rfl⟩

theorem Records.write (h : s.Records payloads) (hfresh : s.IsFresh now) (change : StateChange) :
    (s.write now change).Records
      fun other => if other = change.entity then some change.payload else payloads other := by
  obtain ⟨texts, hholds, htexts⟩ := h
  refine ⟨_, hholds.put hfresh change.entity.group change.entity.id change.payload.print,
    fun other => ?_⟩
  rw [Texts.put]
  by_cases heq : other = change.entity
  · subst heq
    simp
  · have hne : ¬ (other.group = change.entity.group ∧ other.id = change.entity.id) :=
      fun hplace => heq (Entity.eq_of_group_of_id hplace.1 hplace.2)
    simp [heq, hne, htexts]

theorem decode?_print {v : Json} (h : v.ReadsBack) : decode? v.print = v.object? := by
  have hread : Json.ofText v.print = .ok v := h
  rw [decode?, hread]
  cases v <;> rfl

theorem Records.cluster (h : s.Records payloads) (hfresh : s.IsFresh now) (id : String)
    (hreads : ∀ v, payloads (.cluster id) = some v → v.ReadsBack) :
    (s.cluster now id).1 = ((payloads (.cluster id)).bind Json.object?).getD Object.empty := by
  obtain ⟨texts, hholds, htexts⟩ := h
  have htext : (s.get? now clustersGroup id).1 = _ :=
    (hholds.get? hfresh clustersGroup id).trans (htexts (.cluster id))
  have hcluster : (s.cluster now id).1 =
      ((s.get? now clustersGroup id).1.bind decode?).getD Object.empty := rfl
  rw [hcluster, htext]
  cases hpayload : payloads (.cluster id) with
  | none => rfl
  | some v => simp [decode?_print (hreads v hpayload)]

theorem map_some_filterMap {α β : Type} (f : α → Option β) (l : List α) :
    (l.filterMap f).map some = (l.filter fun a => (f a).isSome).map f := by
  rw [List.map_filterMap_some_eq_filter_map_isSome, List.filter_map]
  rfl

theorem Records.list (h : s.Records payloads) (hfresh : s.IsFresh now) {entity : String → Entity}
    {group : String} (hgroup : ∀ id, (entity id).group = group) (hid : ∀ id, (entity id).id = id)
    (hreads : ∀ id v, payloads (entity id) = some v → v.ReadsBack) :
    Lists (fun id => (payloads (entity id)).bind Json.object?) (s.list now group).1 := by
  obtain ⟨texts, hholds, htexts⟩ := h
  obtain ⟨hpairwise, hget⟩ := hholds.getAll hfresh group
  have hlist : (s.list now group).1 =
      (s.getAll now group).1.filterMap fun entry => decode? entry.2 := rfl
  rw [hlist]
  generalize (s.getAll now group).1 = entries at hpairwise hget
  have hget (id : String) : Ascending.get? id entries = (payloads (entity id)).map Json.print := by
    rw [hget, ← htexts (entity id), hgroup, hid]
  -- Every entry is the text of a payload, and is read as this payload.
  have hentry : ∀ entry ∈ entries,
      decode? entry.2 = (payloads (entity entry.1)).bind Json.object? := by
    intro entry hmem
    have hfound := (Ascending.get?_eq_some_iff hpairwise).2 hmem
    rw [hget] at hfound
    obtain ⟨v, hpayload, htext⟩ := Option.map_eq_some_iff.1 hfound
    rw [← htext, hpayload, decode?_print (hreads _ _ hpayload), Option.bind_some]
  refine ⟨(entries.filter fun entry => (decode? entry.2).isSome).map Prod.fst, ?_,
    fun id => ?_, ?_⟩
  · rw [List.pairwise_map]
    exact (hpairwise.filter _).imp fun h => (Bytes.ofString_lt_ofString_iff _ _).2 h
  · constructor
    · intro hmem
      obtain ⟨entry, hfilter, rfl⟩ := List.mem_map.1 hmem
      obtain ⟨hentries, hsome⟩ := List.mem_filter.1 hfilter
      exact (congrArg Option.isSome (hentry entry hentries)).symm.trans hsome
    · intro hsome
      obtain ⟨snapshot, hsnapshot⟩ := Option.isSome_iff_exists.1 hsome
      obtain ⟨v, hpayload, -⟩ := Option.bind_eq_some_iff.1 hsnapshot
      have hmem := Ascending.mem_of_get? ((hget id).trans (congrArg _ hpayload))
      refine List.mem_map.2 ⟨_, List.mem_filter.2 ⟨hmem, ?_⟩, rfl⟩
      rw [hentry _ hmem]
      exact hsome
  · rw [map_some_filterMap, List.map_map]
    exact List.map_congr_left fun entry hmem => hentry entry (List.mem_of_mem_filter hmem)

end Payloads

/-! ## Snapshots -/

section Snapshots

variable {known : Entity → Option Snapshot}

/-- What the store holds are the texts of these snapshots. -/
def Knows (s : SnapshotStore) (known : Entity → Option Snapshot) : Prop :=
  ∃ texts, s.Holds texts ∧
    ∀ entity : Entity, texts entity.group entity.id =
      (known entity).map fun snapshot => (Json.obj snapshot).print

theorem knows_iff_records : s.Knows known ↔ s.Records fun entity => (known entity).map .obj := by
  simp only [Knows, Records, Option.map_map, Function.comp_def]

theorem bind_object?_map_obj (snapshot : Option Snapshot) :
    (snapshot.map Json.obj).bind Json.object? = snapshot := by
  cases snapshot <;> rfl

/-- What is read back of snapshots is read back of them as payloads. -/
theorem readsBack_of_map_obj {entity : Entity}
    (h : ∀ snapshot, known entity = some snapshot → snapshot.ReadsBack) (v : Json)
    (hv : (known entity).map Json.obj = some v) : v.ReadsBack := by
  obtain ⟨snapshot, hsnapshot, rfl⟩ := Option.map_eq_some_iff.1 hv
  exact h snapshot hsnapshot

theorem knows_of_isEmpty (h : s.IsEmpty) : s.Knows fun _ => none :=
  knows_iff_records.2 (records_of_isEmpty h)

theorem Knows.write (h : s.Knows known) (hfresh : s.IsFresh now) (entity : Entity)
    (snapshot : Snapshot) :
    (s.write now ⟨entity, .obj snapshot⟩).Knows
      fun other => if other = entity then some snapshot else known other := by
  rw [knows_iff_records] at h ⊢
  simpa only [apply_ite (Option.map Json.obj), Option.map_some] using
    h.write hfresh ⟨entity, .obj snapshot⟩

theorem Knows.cluster (h : s.Knows known) (hfresh : s.IsFresh now) (id : String)
    (hreads : ∀ snapshot, known (.cluster id) = some snapshot → snapshot.ReadsBack) :
    (s.cluster now id).1 = (known (.cluster id)).getD Object.empty := by
  have hcluster := (knows_iff_records.1 h).cluster hfresh id (readsBack_of_map_obj hreads)
  rwa [bind_object?_map_obj] at hcluster

theorem Knows.list (h : s.Knows known) (hfresh : s.IsFresh now) {entity : String → Entity}
    {group : String} (hgroup : ∀ id, (entity id).group = group) (hid : ∀ id, (entity id).id = id)
    (hreads : ∀ id snapshot, known (entity id) = some snapshot → snapshot.ReadsBack) :
    Lists (fun id => known (entity id)) (s.list now group).1 := by
  have hlist := (knows_iff_records.1 h).list hfresh hgroup hid
    fun id => readsBack_of_map_obj (hreads id)
  simpa only [bind_object?_map_obj] using hlist

end Snapshots

end SnapshotStore

end ClusterEvents
