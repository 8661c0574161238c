import ClusterEvents.Proofs.Projection.Latest

/-!
# Where hosts and infra-envs are listed

The hosts of a cluster are listed from a group of their own, and so are its infra-envs. A message
that tells of a host adds it to the cluster that the message names, and no message takes it away
from another. So a host is listed for each cluster that it was told of, with the state that was
told last there, `entries_show_told`. It is listed for one cluster only as long as all messages
about it name the same, and for two when it moves, `listed_twice`.
-/

namespace ClusterEvents

/-- What belongs to a cluster. -/
inductive Belonging where
  | host
  | infraEnv
deriving DecidableEq, Repr

namespace Belonging

/-- A host of a cluster, or an infra-env. -/
def entity : Belonging → (cluster id : String) → Entity
  | .host => .host
  | .infraEnv => .infraEnv

/-- The group of the hosts of a cluster, or of its infra-envs. -/
def group : Belonging → (cluster : String) → String
  | .host => hostsGroup
  | .infraEnv => infraEnvsGroup

theorem group_entity (b : Belonging) (cluster id : String) :
    (b.entity cluster id).group = b.group cluster := by
  cases b <;> rfl

theorem id_entity (b : Belonging) (cluster id : String) : (b.entity cluster id).id = id := by
  cases b <;> rfl

/-- What is known of the hosts of a cluster, or of its infra-envs. -/
def snapshots (b : Belonging) (now : Int) (cluster : String) (s : SnapshotStore) :
    List Snapshot :=
  match b with
  | .host => (s.hosts now cluster).1
  | .infraEnv => (s.infraEnvs now cluster).1

/-- The same, with the identifiers that the snapshots are kept under. -/
def entries (b : Belonging) (now : Int) (cluster : String) (s : SnapshotStore) :
    List (String × Snapshot) :=
  (s.getAll now (b.group cluster)).1.filterMap fun entry =>
    (SnapshotStore.decode? entry.2).map fun snapshot => (entry.1, snapshot)

variable {s : SnapshotStore} {now : Int}

theorem map_snd_entries (b : Belonging) (now : Int) (cluster : String) (s : SnapshotStore) :
    (b.entries now cluster s).map Prod.snd = b.snapshots now cluster s := by
  have hsnapshots : b.snapshots now cluster s =
      (s.getAll now (b.group cluster)).1.filterMap fun entry =>
        SnapshotStore.decode? entry.2 := by
    cases b <;> rfl
  rw [hsnapshots, entries, List.map_filterMap]
  simp only [Option.map_map, Function.comp_def, Option.map_id']

/-- Of what a store knows, it lists what can be read from the text it is kept as. -/
theorem mem_entries_iff {known : Entity → Option Snapshot} (h : s.Knows known)
    (hfresh : s.IsFresh now) (b : Belonging) (cluster id : String) (snapshot : Snapshot) :
    (id, snapshot) ∈ b.entries now cluster s ↔
      ∃ told, known (b.entity cluster id) = some told ∧
        SnapshotStore.decode? (Json.obj told).print = some snapshot := by
  obtain ⟨texts, hholds, htexts⟩ := h
  obtain ⟨hpairwise, hget⟩ := hholds.getAll hfresh (b.group cluster)
  have htext (text : String) : (id, text) ∈ (s.getAll now (b.group cluster)).1 ↔
      ∃ told, known (b.entity cluster id) = some told ∧ (Json.obj told).print = text := by
    rw [← Ascending.get?_eq_some_iff hpairwise, hget, ← Option.map_eq_some_iff, ← htexts,
      group_entity, id_entity]
  simp only [entries, List.mem_filterMap, Option.map_eq_some_iff, Prod.mk.injEq]
  constructor
  · rintro ⟨⟨id', text⟩, hmem, snapshot', hdecode, rfl, rfl⟩
    obtain ⟨told, htold, rfl⟩ := (htext text).1 hmem
    exact ⟨told, htold, hdecode⟩
  · rintro ⟨told, htold, hdecode⟩
    exact ⟨(id, _), (htext _).2 ⟨told, htold, rfl⟩, snapshot, hdecode, rfl, rfl⟩

end Belonging

namespace Projection

variable {s : SnapshotStore} {deliveries : List Delivery} {now : Int}

/-- After messages have been processed, a host or an infra-env is listed for each cluster that it
was told of, with what was told last, as far as that is read back. So it is listed for one
cluster only when all messages about it name the same. -/
theorem entries_show_told (p : Projection) (hs : s.IsEmpty) (hnever : p.NeverExpires s deliveries)
    (hfresh : (p.storeAfter s deliveries).IsFresh now) (b : Belonging) (id : String) :
    (∀ cluster,
      (b.entries now cluster (p.storeAfter s deliveries)).map Prod.snd =
        b.snapshots now cluster (p.storeAfter s deliveries) ∧
      ∀ snapshot, (id, snapshot) ∈ b.entries now cluster (p.storeAfter s deliveries) ↔
        ∃ told, latest? (deliveries.map (·.message)) (b.entity cluster id) = some told ∧
          SnapshotStore.decode? (Json.obj told).print = some snapshot) ∧
    ∀ home, (∀ d ∈ deliveries, ∀ cluster told,
        d.message.stateOf? (b.entity cluster id) = some told → cluster = home) →
      ∀ cluster snapshot, (id, snapshot) ∈ b.entries now cluster (p.storeAfter s deliveries) →
        cluster = home := by
  have hknows := knows_storeAfter hs hnever deliveries.length (Nat.le_refl _)
  rw [List.take_length] at hknows
  have hlisted := b.mem_entries_iff hknows hfresh
  refine ⟨fun cluster => ⟨b.map_snd_entries now cluster _, hlisted cluster id⟩, ?_⟩
  intro home hhome cluster snapshot hmem
  obtain ⟨told, htold, -⟩ := (hlisted cluster id snapshot).1 hmem
  obtain ⟨m, hm, htells⟩ := exists_of_latest? htold
  obtain ⟨d, hd, rfl⟩ := List.mem_map.1 hm
  exact hhome d hd cluster told htells

section Run

/-- The states of two hosts of a cluster, and of the first of them in another one. -/
def move : List Event := [
  saying "HostState" [("id", "h"), ("cluster_id", "c")],
  saying "HostState" [("id", "k"), ("cluster_id", "c")],
  saying "HostState" [("id", "h"), ("cluster_id", "d")]]

/-- The events, a millisecond apart. -/
def moving : List Delivery :=
  move.zipIdx.map fun (e, i) => arriving e i

theorem ofBytes_move : ∀ e ∈ move, ∀ offset,
    Event.ofBytes (Message.carrying e offset).value = .ok e := by
  have hread : ∀ e ∈ move, (Json.readText (Json.Kind.record Event.fields Json.depthLimit)
      (Glyphs.ofString e.encode)).map Event.ofRecord = .ok e := by decide +kernel
  exact fun e he offset => (Message.ofBytes_carrying e offset).trans (hread e he)

theorem stateOf?_of_mem_move {e : Event} (he : e ∈ move) (offset : Int) (entity : Entity) :
    (Message.carrying e offset).stateOf? entity =
      if e.IsAbout entity then e.payload.object? else none := by
  rw [Message.stateOf?, ofBytes_move e he]

theorem latest?_moving (entity : Entity) : latest? (moving.map (·.message)) entity =
    move.reverse.findSome? fun e => if e.IsAbout entity then e.payload.object? else none := by
  simp only [latest?, moving, move, arriving, List.zipIdx_cons, List.zipIdx_nil, List.map_cons,
    List.map_nil, List.reverse_cons, List.reverse_nil, List.nil_append, List.cons_append,
    List.findSome?_cons, List.findSome?_nil]
  rw [stateOf?_of_mem_move (by simp [move]), stateOf?_of_mem_move (by simp [move]),
    stateOf?_of_mem_move (by simp [move])]

theorem isEmpty_start : (SnapshotStore.durable ⟨1000⟩ {}).IsEmpty := ⟨rfl, rfl⟩

theorem neverExpires_moving : NeverExpires {} (.durable ⟨1000⟩ {}) moving :=
  neverExpires_of_pairwise _ isEmpty_start (by decide)

theorem isFresh_moving : (storeAfter {} (.durable ⟨1000⟩ {}) moving).IsFresh 3 :=
  isFresh_storeAfter isEmpty_start (by decide)

/-- The host that does not move is listed for its cluster only. -/
theorem entries_after_move :
    (∀ cluster,
      (Belonging.host.entries 3 cluster (storeAfter {} (.durable ⟨1000⟩ {}) moving)).map Prod.snd =
        Belonging.host.snapshots 3 cluster (storeAfter {} (.durable ⟨1000⟩ {}) moving) ∧
      ∀ snapshot, ("k", snapshot) ∈ Belonging.host.entries 3 cluster
          (storeAfter {} (.durable ⟨1000⟩ {}) moving) ↔
        ∃ told, latest? (moving.map (·.message)) (.host cluster "k") = some told ∧
          SnapshotStore.decode? (Json.obj told).print = some snapshot) ∧
    ∀ cluster snapshot, ("k", snapshot) ∈ Belonging.host.entries 3 cluster
        (storeAfter {} (.durable ⟨1000⟩ {}) moving) → cluster = "c" := by
  obtain ⟨hlisted, hhome⟩ := entries_show_told {} isEmpty_start neverExpires_moving isFresh_moving
    .host "k"
  refine ⟨hlisted, hhome "c" fun d hd cluster told htells => ?_⟩
  obtain ⟨⟨e, i⟩, hzip, rfl⟩ := List.mem_map.1 hd
  have he : e ∈ move := List.fst_mem_of_mem_zipIdx hzip
  have hmove : ∀ e ∈ move, e.payloadText? "id" = some "k" →
      e.payloadText? "cluster_id" = some "c" := by decide +kernel
  have hstate := (stateOf?_of_mem_move he i (.host cluster "k")).symm.trans htells
  split at hstate
  · rename_i habout
    exact Option.some.inj (habout.2.2.symm.trans (hmove e he habout.2.1))
  · cases hstate

/-- The host that moves is listed for the cluster that it left as well. -/
theorem listed_twice :
    ¬ ∀ (p : Projection) (s : SnapshotStore) (deliveries : List Delivery) (now : Int),
      s.IsEmpty → p.NeverExpires s deliveries → (p.storeAfter s deliveries).IsFresh now →
      ∀ (b : Belonging) (id cluster other : String) (snapshot snapshot' : Snapshot),
        (id, snapshot) ∈ b.entries now cluster (p.storeAfter s deliveries) →
        (id, snapshot') ∈ b.entries now other (p.storeAfter s deliveries) → cluster = other := by
  intro hall
  have hknows := knows_storeAfter isEmpty_start neverExpires_moving moving.length (Nat.le_refl _)
  rw [List.take_length] at hknows
  have hlisted (cluster : String) (told : Snapshot)
      (htold : latest? (moving.map (·.message)) (.host cluster "h") = some told)
      (hwhole : (Json.obj told).isWhole = true)
      (hdepth : (Json.obj told).depth ≤ Json.depthLimit) :
      ("h", told) ∈ Belonging.host.entries 3 cluster
        (storeAfter {} (.durable ⟨1000⟩ {}) moving) := by
    refine (Belonging.host.mem_entries_iff hknows isFresh_moving cluster "h" told).2
      ⟨told, htold, ?_⟩
    rw [SnapshotStore.decode?_print (Json.readsBack_of_isWhole hwhole hdepth)]
    rfl
  have hleft := hlisted "c" _ (by rw [latest?_moving]; rfl) (by decide) (by decide)
  have hmoved := hlisted "d" _ (by rw [latest?_moving]; rfl) (by decide) (by decide)
  have hsame := hall _ _ _ _ isEmpty_start neverExpires_moving isFresh_moving
    _ _ _ _ _ _ hleft hmoved
  exact absurd hsame (by decide)

end Run

end Projection

end ClusterEvents
