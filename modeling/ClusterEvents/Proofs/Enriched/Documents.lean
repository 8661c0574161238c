import ClusterEvents.Proofs.Enriched.Standard
import ClusterEvents.Proofs.Json.Records
import ClusterEvents.Enriched.Assembly

/-!
# Documents under the standard rules

Each field of an enriched event is read by itself (`ReadsAs`), so what one is written as
can be read back also after its cluster and its infra-envs have been changed
(`ofJson?_alter`). The standard rules change nothing else, so they never leave a value that
is no enriched event any more: `enrich_standard` says which document an activity becomes,
for all that may be known of its cluster.
-/

namespace ClusterEvents

namespace EnrichedEvent

open Json (onObject alterItems)
open FieldRules

/-! ## Reading back what was written -/

/-- The object that an enriched event is written as. -/
def members (e : EnrichedEvent) : Object :=
  e.toJson.object?.getD .empty

theorem toJson_eq (e : EnrichedEvent) : e.toJson = .obj e.members := rfl

theorem fieldValues_append (l r : List (String × Document)) :
    Document.fieldValues (l ++ r) = Document.fieldValues l ++ Document.fieldValues r := by
  simp only [Json.fieldValues_eq_map, List.map_append]

theorem get?_fieldUnless (leftOut : Bool) (name : String) (field : Document) (key : String) :
    (Object.ofList (Document.fieldValues (fieldUnless leftOut (name, field)))).get? key =
      if leftOut then none else if key = name then some field.toJson else none := by
  cases leftOut with
  | true => rfl
  | false => exact Members.get?_insert ..

theorem propsField?_written (props : Object) :
    propsField? (if props.isEmpty then none
      else some (.obj (Object.ofList [("props", .obj props)]))) = some props := by
  cases props with
  | nil => rfl
  | cons => simp [Members.isEmpty, propsField?, Json.fields?, Object.get?_ofList_cons,
      Object.get?_ofList_nil, objectField?]

theorem listField?_written (g : Json → Json) (items : List Json) :
    listField? (Option.map (alterItems g) (if items = [] then none else some (.arr items))) =
      some (items.map g) := by
  cases items <;> simp [listField?]

theorem nullableField?_object (o : Option Object) :
    nullableField? Json.object? (some ((o.map Json.obj).getD .null)) = some o := by
  cases o <;> rfl

theorem nullableField?_text (s : Option String) :
    nullableField? Json.text? (if s = none then none else some ((s.map Json.str).getD .null)) =
      some s := by
  cases s <;> rfl

/-- What is found in an object, field by field, reads as an enriched event. -/
structure ReadsAs (o : Object) (e : EnrichedEvent) : Prop where
  id : textField? (o.get? "id") = some e.id
  message : textField? (o.get? "message") = some e.message
  category : textField? (o.get? "category") = some e.category
  clusterId : textField? (o.get? "cluster_id") = some e.clusterId
  eventTime : textField? (o.get? "event_time") = some e.eventTime
  name : textField? (o.get? "name") = some e.name
  requestId : textField? (o.get? "request_id") = some e.requestId
  severity : textField? (o.get? "severity") = some e.severity
  props : propsField? (o.get? "event") = some e.props
  cluster : objectField? (o.get? "cluster") = some e.cluster
  infraEnvs : listField? (o.get? "infra_envs") = some e.infraEnvs
  versions : nullableField? Json.object? (o.get? "versions") = some e.versions
  releaseTag : nullableField? Json.text? (o.get? "release_tag") = some e.releaseTag
  hostsSummary :
    nullableField? HostsSummary.ofJson? (o.get? "hosts_summary") = some e.hostsSummary

theorem ofJson?_of_readsAs {o : Object} {e : EnrichedEvent} (h : ReadsAs o e) :
    ofJson? (.obj o) = some e := by
  have hfields : Json.fields? (fields.map (·.name)) (.obj o) = some o.get? := rfl
  dsimp only [ofJson?, Option.bind_eq_bind]
  -- Field by field: a `simp` under the binders would take twice as long with each of them.
  rw [hfields, Option.bind_some, h.id, Option.bind_some, h.message, Option.bind_some, h.category,
    Option.bind_some, h.clusterId, Option.bind_some, h.eventTime, Option.bind_some, h.name,
    Option.bind_some, h.requestId, Option.bind_some, h.severity, Option.bind_some, h.props,
    Option.bind_some, h.cluster, Option.bind_some, h.infraEnvs, Option.bind_some, h.versions,
    Option.bind_some, h.releaseTag, Option.bind_some, h.hostsSummary, Option.bind_some]

theorem readsAs_of_ofJson? {o : Object} {e : EnrichedEvent} (h : ofJson? (.obj o) = some e) :
    ReadsAs o e := by
  have hfields : Json.fields? (fields.map (·.name)) (.obj o) = some o.get? := rfl
  dsimp only [ofJson?, Option.bind_eq_bind] at h
  rw [hfields, Option.bind_some] at h
  obtain ⟨_, hid, h⟩ := Option.bind_eq_some_iff.1 h
  obtain ⟨_, hmessage, h⟩ := Option.bind_eq_some_iff.1 h
  obtain ⟨_, hcategory, h⟩ := Option.bind_eq_some_iff.1 h
  obtain ⟨_, hclusterId, h⟩ := Option.bind_eq_some_iff.1 h
  obtain ⟨_, heventTime, h⟩ := Option.bind_eq_some_iff.1 h
  obtain ⟨_, hname, h⟩ := Option.bind_eq_some_iff.1 h
  obtain ⟨_, hrequestId, h⟩ := Option.bind_eq_some_iff.1 h
  obtain ⟨_, hseverity, h⟩ := Option.bind_eq_some_iff.1 h
  obtain ⟨_, hprops, h⟩ := Option.bind_eq_some_iff.1 h
  obtain ⟨_, hcluster, h⟩ := Option.bind_eq_some_iff.1 h
  obtain ⟨_, hinfraEnvs, h⟩ := Option.bind_eq_some_iff.1 h
  obtain ⟨_, hversions, h⟩ := Option.bind_eq_some_iff.1 h
  obtain ⟨_, hreleaseTag, h⟩ := Option.bind_eq_some_iff.1 h
  obtain ⟨_, hhostsSummary, h⟩ := Option.bind_eq_some_iff.1 h
  cases h
  exact ⟨hid, hmessage, hcategory, hclusterId, heventTime, hname, hrequestId, hseverity, hprops,
    hcluster, hinfraEnvs, hversions, hreleaseTag, hhostsSummary⟩

/-- What agrees with what an enriched event is written as, but for its cluster and its
infra-envs, reads as that event with others in their place. -/
theorem readsAs_of_agree {e : EnrichedEvent} (hsummary : e.hostsSummary = none) {o : Object}
    (hagree : Members.AgreeExcept ["cluster", "infra_envs"] o e.members) {cluster : Object}
    (hcluster : objectField? (o.get? "cluster") = some cluster) {infraEnvs : List Json}
    (hinfraEnvs : listField? (o.get? "infra_envs") = some infraEnvs) :
    ReadsAs o { e with cluster, infraEnvs } := by
  constructor
  case cluster => exact hcluster
  case infraEnvs => exact hinfraEnvs
  all_goals
    rw [hagree _ (by decide)]
    simp [members, toJson, document, Document.toJson, Document.fieldValues, fieldValues_append,
      Json.object?, Object.get?_ofList_append, Object.get?_ofList_cons, Object.get?_ofList_nil,
      get?_fieldUnless, hsummary, textField?, propsField?_written, nullableField?_object,
      nullableField?_text]
  rfl

theorem get?_cluster_members (e : EnrichedEvent) :
    e.members.get? "cluster" = some (.obj e.cluster) := by
  simp [members, toJson, document, Document.toJson, Document.fieldValues, fieldValues_append,
    Json.object?, Object.get?_ofList_append, Object.get?_ofList_cons, Object.get?_ofList_nil,
    get?_fieldUnless]

theorem get?_infraEnvs_members (e : EnrichedEvent) :
    e.members.get? "infra_envs" = if e.infraEnvs = [] then none else some (.arr e.infraEnvs) := by
  simp [members, toJson, document, Document.toJson, Document.fieldValues, fieldValues_append,
    Json.object?, Object.get?_ofList_append, Object.get?_ofList_cons, Object.get?_ofList_nil,
    get?_fieldUnless]

/-- What an enriched event is written as reads as that event. -/
theorem readsAs_members {e : EnrichedEvent} (hsummary : e.hostsSummary = none) :
    ReadsAs e.members e := by
  refine readsAs_of_agree hsummary (fun _ _ => rfl) ?_ ?_
  · rw [get?_cluster_members]
    rfl
  · rw [get?_infraEnvs_members]
    cases e.infraEnvs <;> rfl

theorem ofJson?_toJson {e : EnrichedEvent} (hsummary : e.hostsSummary = none) :
    ofJson? e.toJson = some e :=
  ofJson?_of_readsAs (readsAs_members hsummary)

/-- An enriched event reads back with its cluster and its infra-envs changed, when these
are changed in the object it was written as. -/
theorem ofJson?_alter {e : EnrichedEvent} (hsummary : e.hostsSummary = none)
    (f : Object → Object) (g : Json → Json) :
    ofJson? (.obj ((e.members.alter "cluster" (onObject f)).alter "infra_envs" (alterItems g))) =
      some { e with cluster := f e.cluster, infraEnvs := e.infraEnvs.map g } := by
  apply ofJson?_of_readsAs
  apply readsAs_of_agree hsummary
  · intro key hkey
    simp only [List.mem_cons, List.not_mem_nil, or_false, not_or] at hkey
    rw [Members.get?_alter, if_neg hkey.2, Members.get?_alter, if_neg hkey.1]
  · rw [Members.get?_alter, if_neg (by decide), Members.get?_alter, if_pos rfl,
      get?_cluster_members]
    rfl
  · rw [Members.get?_alter, if_pos rfl, Members.get?_alter, if_neg (by decide),
      get?_infraEnvs_members]
    exact listField?_written g e.infraEnvs

/-! ## The standard rules -/

/-- The document with what is known of its cluster tidied. -/
def tidied (e : EnrichedEvent) : EnrichedEvent :=
  { e with
    cluster := tidyCluster e.cluster
    infraEnvs := e.infraEnvs.map (onObject (eraseAll infraEnvSecrets)) }

/-- What the standard rules make of a document is a document again. -/
theorem ofJson?_apply_standard {e : EnrichedEvent} (hsummary : e.hostsSummary = none) :
    ofJson? (FieldRules.standard.apply e.toJson) = some e.tidied := by
  rw [FieldRules.apply_standard, toJson_eq, Json.onObject_obj, FieldRules.tidyDocument,
    ofJson?_alter hsummary, tidied]

theorem transformed_standard {e : EnrichedEvent} (hsummary : e.hostsSummary = none) :
    e.transformed .standard = e.tidied := by
  rw [transformed, ofJson?_apply_standard hsummary]

theorem hosts_base (event : Event) (cluster : Snapshot) (hosts infraEnvs : List Snapshot) :
    (base event cluster hosts infraEnvs).cluster.get? "hosts" =
      some (.arr ((embedInfraEnvs hosts infraEnvs).map .obj)) := by
  rw [base, Members.get?_insert, if_pos rfl]

theorem tidyCluster_insert_hosts (cluster : Object) (hosts : List Object) :
    tidyCluster (cluster.insert "hosts" (.arr (hosts.map .obj))) =
      (tidyClusterFields cluster).insert "hosts"
        (.arr (hosts.map fun host => .obj (tidyHost host))) := by
  rw [tidyCluster, withHosts, spares_tidyClusterFields.insert_eq, Members.alter_insert,
    Json.alterItems_arr, List.map_map]
  rfl

/-- The document of an activity: its own fields stay as they were, and what is known of
its cluster is tidied. -/
theorem enrich_standard (event : Event) (cluster : Snapshot) (hosts infraEnvs : List Snapshot) :
    enrich .standard event cluster hosts infraEnvs =
      summarised { base event cluster hosts infraEnvs with
        cluster := (tidyClusterFields cluster).insert "hosts"
          (.arr ((embedInfraEnvs hosts infraEnvs).map fun host => .obj (tidyHost host)))
        infraEnvs := infraEnvs.map fun infraEnv => .obj (eraseAll infraEnvSecrets infraEnv) } := by
  rw [enrich, transformed_standard rfl, tidied]
  simp only [base, tidyCluster_insert_hosts, List.map_map]
  rfl

section

variable (event : Event) (cluster : Snapshot) (hosts infraEnvs : List Snapshot)

theorem id_enrich_standard : (enrich .standard event cluster hosts infraEnvs).id =
    documentId (payloadText event "message") (payloadText event "event_time") := by
  rw [enrich_standard]
  rfl

theorem eventTime_enrich_standard : (enrich .standard event cluster hosts infraEnvs).eventTime =
    payloadText event "event_time" := by
  rw [enrich_standard]
  rfl

end

end EnrichedEvent

end ClusterEvents
