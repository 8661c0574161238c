import ClusterEvents.Projection.Routing
import ClusterEvents.Proofs.Snapshots.Knowledge

/-!
# The last payload is what is read

Calls to the snapshots are answered one by one, each by the store that the ones before it
have left. The right answers follow from the calls alone: `lastSet` is the payload that
was set last for an entity, and `IsAnswer` is what a read shows of these payloads. Since it
looks at the payloads of one cluster, or at those of the hosts or of the infra-envs of one
cluster, no write for anything else shows in it.

A store in which nothing expires records the payloads that were set last
(`Records.serve`), so it gives the right answers, and stores of either kind give the same
(`answers_show_lastSet`).
-/

namespace ClusterEvents

/-! ## Right answers -/

/-- What a call to the snapshots comes back with. -/
inductive SnapshotAnswer where
  | written
  | cluster (snapshot : Snapshot)
  | list (snapshots : List Snapshot)
deriving DecidableEq

/-- The payload that a call sets for an entity. -/
def SnapshotCall.payloadOf? (call : SnapshotCall) (entity : Entity) : Option Json :=
  match call with
  | .write change => if entity = change.entity then some change.payload else none
  | .readCluster _ | .readHosts _ | .readInfraEnvs _ => none

/-- The payload that the last of several calls sets that sets any for an entity. -/
def lastSet (calls : List SnapshotCall) (entity : Entity) : Option Json :=
  calls.reverse.findSome? (·.payloadOf? entity)

/-- What a read comes back with when these payloads are the last that were set. -/
inductive IsAnswer (payloads : Entity → Option Json) : SnapshotCall → SnapshotAnswer → Prop
  | written (change : StateChange) : IsAnswer payloads (.write change) .written
  | cluster (id : String) :
      IsAnswer payloads (.readCluster id)
        (.cluster (((payloads (.cluster id)).bind Json.object?).getD Object.empty))
  | hosts {cluster : String} {snapshots : List Snapshot}
      (h : Lists (fun id => (payloads (.host cluster id)).bind Json.object?) snapshots) :
      IsAnswer payloads (.readHosts cluster) (.list snapshots)
  | infraEnvs {cluster : String} {snapshots : List Snapshot}
      (h : Lists (fun id => (payloads (.infraEnv cluster id)).bind Json.object?) snapshots) :
      IsAnswer payloads (.readInfraEnvs cluster) (.list snapshots)

variable {payloads : Entity → Option Json} {call : SnapshotCall} {calls : List SnapshotCall}

theorem IsAnswer.unique {answer other : SnapshotAnswer} (h : IsAnswer payloads call answer)
    (h' : IsAnswer payloads call other) : answer = other := by
  cases h with
  | written change =>
      cases h'
      rfl
  | cluster id =>
      cases h'
      rfl
  | hosts h =>
      cases h' with
      | hosts h' => rw [h.unique h']
  | infraEnvs h =>
      cases h' with
      | infraEnvs h' => rw [h.unique h']

theorem lastSet_concat (calls : List SnapshotCall) (call : SnapshotCall) :
    lastSet (calls ++ [call]) =
      fun entity => (call.payloadOf? entity).or (lastSet calls entity) := by
  funext entity
  rw [lastSet, lastSet, List.reverse_concat, List.findSome?_cons]
  cases call.payloadOf? entity <;> rfl

theorem SnapshotCall.payloadOf?_eq_some_iff {entity : Entity} {v : Json} :
    call.payloadOf? entity = some v ↔ call = .write ⟨entity, v⟩ := by
  cases call with
  | write change =>
      obtain ⟨other, payload⟩ := change
      simp [payloadOf?, eq_comm]
  | readCluster _ => simp [payloadOf?]
  | readHosts _ => simp [payloadOf?]
  | readInfraEnvs _ => simp [payloadOf?]

theorem mem_of_lastSet {entity : Entity} {v : Json} (h : lastSet calls entity = some v) :
    .write ⟨entity, v⟩ ∈ calls := by
  obtain ⟨call, hcall, hsets⟩ := List.exists_of_findSome?_eq_some h
  rw [SnapshotCall.payloadOf?_eq_some_iff] at hsets
  exact hsets ▸ List.mem_reverse.1 hcall

/-! ## Given answers -/

/-- A call and when it is made, in milliseconds. -/
structure TimedCall where
  now : Int
  call : SnapshotCall
deriving DecidableEq

namespace SnapshotStore

variable {s s' : SnapshotStore} {now : Int} {timed timed' : List TimedCall}

/-- What a call comes back with, and the store that it leaves. -/
def serve (now : Int) (s : SnapshotStore) : SnapshotCall → SnapshotAnswer × SnapshotStore
  | .write change => (.written, s.write now change)
  | .readCluster cluster =>
    let (snapshot, s) := s.cluster now cluster
    (.cluster snapshot, s)
  | .readHosts cluster =>
    let (snapshots, s) := s.hosts now cluster
    (.list snapshots, s)
  | .readInfraEnvs cluster =>
    let (snapshots, s) := s.infraEnvs now cluster
    (.list snapshots, s)

/-- What calls come back with that are made one by one. -/
def answers : SnapshotStore → List TimedCall → List SnapshotAnswer
  | _, [] => []
  | s, t :: rest => (s.serve t.now t.call).1 :: answers (s.serve t.now t.call).2 rest

/-- No call finds anything in the store that has outlived its time. -/
def StaysFresh : SnapshotStore → List TimedCall → Prop
  | _, [] => True
  | s, t :: rest => s.IsFresh t.now ∧ StaysFresh (s.serve t.now t.call).2 rest

instance decidableStaysFresh : ∀ (s : SnapshotStore) (timed : List TimedCall),
    Decidable (s.StaysFresh timed)
  | _, [] => inferInstanceAs (Decidable True)
  | s, t :: rest =>
    have := decidableStaysFresh (s.serve t.now t.call).2 rest
    inferInstanceAs (Decidable (s.IsFresh t.now ∧ StaysFresh _ rest))

theorem serve_snd_of_isFresh (h : s.IsFresh now) (call : SnapshotCall) :
    (s.serve now call).2 =
      match call with
      | .write change => s.write now change
      | _ => s := by
  cases call with
  | write change => rfl
  | readCluster cluster => exact get?_snd_of_isFresh h clustersGroup cluster
  | readHosts cluster => exact getAll_snd_of_isFresh h (hostsGroup cluster)
  | readInfraEnvs cluster => exact getAll_snd_of_isFresh h (infraEnvsGroup cluster)

/-- A call is answered by what is recorded, and adds what it sets. -/
theorem Records.serve (h : s.Records payloads) (hfresh : s.IsFresh now)
    (hreads : ∀ entity v, payloads entity = some v → v.ReadsBack) (call : SnapshotCall) :
    IsAnswer payloads call (s.serve now call).1 ∧
      (s.serve now call).2.Records fun entity => (call.payloadOf? entity).or (payloads entity) := by
  rw [serve_snd_of_isFresh hfresh]
  cases call with
  | write change =>
      refine ⟨.written change, ?_⟩
      have hsets : (fun entity => ((SnapshotCall.write change).payloadOf? entity).or
          (payloads entity)) =
          fun entity =>
            if entity = change.entity then some change.payload else payloads entity := by
        funext entity
        rw [SnapshotCall.payloadOf?]
        split <;> rfl
      rw [hsets]
      exact h.write hfresh change
  | readCluster cluster =>
      refine ⟨?_, h⟩
      have hcluster : (s.serve now (.readCluster cluster)).1 = .cluster _ :=
        congrArg SnapshotAnswer.cluster (h.cluster hfresh cluster (hreads (.cluster cluster)))
      rw [hcluster]
      exact .cluster cluster
  | readHosts cluster =>
      exact ⟨.hosts (h.list hfresh (fun _ => rfl) (fun _ => rfl) fun id => hreads _), h⟩
  | readInfraEnvs cluster =>
      exact ⟨.infraEnvs (h.list hfresh (fun _ => rfl) (fun _ => rfl) fun id => hreads _), h⟩

@[simp] theorem length_answers (s : SnapshotStore) (timed : List TimedCall) :
    (s.answers timed).length = timed.length := by
  induction timed generalizing s with
  | nil => rfl
  | cons t rest ih => simp [answers, ih]

theorem Records.answers {before : List SnapshotCall} (h : s.Records (lastSet before))
    (hfresh : s.StaysFresh timed)
    (hreads : ∀ change, .write change ∈ before ++ timed.map (·.call) → change.payload.ReadsBack)
    {n : Nat} {t : TimedCall} (ht : timed[n]? = some t) :
    ∃ answer, (s.answers timed)[n]? = some answer ∧
      IsAnswer (lastSet (before ++ (timed.take n).map (·.call))) t.call answer := by
  -- On the calls that are still to come; the store records what those before them have set.
  induction timed generalizing s before n with
  | nil => cases ht
  | cons first rest ih =>
      obtain ⟨hnow, hrest⟩ := hfresh
      have hback : ∀ entity v, lastSet before entity = some v → v.ReadsBack := by
        intro entity v hlast
        exact hreads ⟨entity, v⟩ (List.mem_append_left _ (mem_of_lastSet hlast))
      obtain ⟨hanswer, hrecords⟩ := h.serve hnow hback first.call
      cases n with
      | zero =>
          obtain rfl := Option.some.inj ht
          refine ⟨_, rfl, ?_⟩
          simpa using hanswer
      | succ n =>
          rw [← lastSet_concat] at hrecords
          have hlater := ih hrecords hrest (by simpa using hreads) ht
          simpa [SnapshotStore.answers] using hlater

/-- A store that starts empty and in which nothing expires shows what was set last, to
every read, and so does any other store for the same calls, of either kind and at any
time: the two give the same answers. -/
theorem answers_show_lastSet (hs : s.IsEmpty) (hs' : s'.IsEmpty)
    (hcalls : timed.map (·.call) = timed'.map (·.call)) (hfresh : s.StaysFresh timed)
    (hfresh' : s'.StaysFresh timed')
    (hreads : ∀ change, .write change ∈ timed.map (·.call) → change.payload.ReadsBack) :
    s.answers timed = s'.answers timed' ∧
    ∀ n t, timed[n]? = some t → ∃ answer, (s.answers timed)[n]? = some answer ∧
      IsAnswer (lastSet ((timed.take n).map (·.call))) t.call answer := by
  have hempty : s.Records (lastSet []) := records_of_isEmpty hs
  have hempty' : s'.Records (lastSet []) := records_of_isEmpty hs'
  have hright (n : Nat) (t : TimedCall) (ht : timed[n]? = some t) :=
    hempty.answers hfresh hreads ht
  refine ⟨List.ext_getElem? fun n => ?_, hright⟩
  have hlength : timed.length = timed'.length := by
    simpa using congrArg List.length hcalls
  cases ht : timed[n]? with
  | none =>
      rw [List.getElem?_eq_none_iff] at ht
      have hnone : (s.answers timed)[n]? = none := by simpa using ht
      have hnone' : (s'.answers timed')[n]? = none := by simpa [← hlength] using ht
      rw [hnone, hnone']
  | some t =>
      obtain ⟨answer, hanswer, his⟩ := hright n t ht
      have hcall : (timed'.map (·.call))[n]? = some t.call := by
        rw [← hcalls, List.getElem?_map, ht, Option.map_some]
      rw [List.getElem?_map, Option.map_eq_some_iff] at hcall
      obtain ⟨t', ht', hsame⟩ := hcall
      obtain ⟨answer', hanswer', his'⟩ := hempty'.answers hfresh' (hcalls ▸ hreads) ht'
      rw [List.map_take, ← hcalls, hsame, ← List.map_take] at his'
      rw [hanswer, hanswer', his.unique his']

section Run

/-- The states of clusters, hosts and infra-envs, some of them no objects, among reads. -/
def hearsay : List SnapshotCall := [
  .write ⟨.cluster "c", .obj (Object.ofList [("name", .str "a")])⟩,
  .write ⟨.host "c" "h", .obj (Object.ofList [("role", .str "worker")])⟩,
  .write ⟨.host "c" "é", .null⟩,
  .readHosts "c",
  .write ⟨.host "c" "h", .obj (Object.ofList [("role", .str "master")])⟩,
  .write ⟨.infraEnv "c" "h", .obj Object.empty⟩,
  .readCluster "c",
  .readHosts "c",
  .readInfraEnvs "c"]

/-- Calls, some milliseconds apart. -/
def every (pause : Nat) (calls : List SnapshotCall) : List TimedCall :=
  calls.zipIdx.map fun (call, i) => ⟨pause * i, call⟩

theorem answers_in_hearsay :
    (memory ⟨⟨1000⟩, []⟩).answers (every 1 hearsay) =
        (durable ⟨500⟩ {}).answers (every 2 hearsay) ∧
      ∀ n t, (every 1 hearsay)[n]? = some t →
        ∃ answer, ((memory ⟨⟨1000⟩, []⟩).answers (every 1 hearsay))[n]? = some answer ∧
          IsAnswer (lastSet (((every 1 hearsay).take n).map (·.call))) t.call answer := by
  refine answers_show_lastSet rfl ⟨rfl, rfl⟩ rfl (by decide +kernel) (by decide +kernel) ?_
  intro change hchange
  simp only [every, hearsay, List.zipIdx_cons, List.zipIdx_nil, List.map_cons, List.map_nil,
    List.mem_cons, SnapshotCall.write.injEq, reduceCtorEq, false_or, List.not_mem_nil,
    or_false] at hchange
  obtain rfl | rfl | rfl | rfl | rfl := hchange <;> decide +kernel

end Run

end SnapshotStore

end ClusterEvents
