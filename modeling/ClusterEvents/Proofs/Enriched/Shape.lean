import Mathlib.Data.List.Forall2
import ClusterEvents.Proofs.Enriched.Documents

/-!
# What the standard rules leave alone

The standard rules are run on free-form JSON, and yet what they leave is a document of the
same shape: `standard_keeps_shape`. The fields of the activity itself are untouched, hosts
and infra-envs are as many objects as before, in the same order and with the same under all
keys that no rule names, and the summary of the hosts is that of the base document, since
no rule names a property that is counted.
-/

namespace ClusterEvents

open FieldRules
open Members (AgreeExcept)

/-! ## The summary of tidied hosts -/

namespace HostsSummary

theorem hostsOf_of_items {cluster : Object} {items : List Json}
    (h : cluster.get? "hosts" = some (.arr items)) :
    hostsOf cluster = items.filterMap Json.object? := by
  simp [hostsOf, h, Json.items?]

theorem hostsOf_tidyCluster {cluster : Object} {items : List Json}
    (h : cluster.get? "hosts" = some (.arr items)) :
    hostsOf (tidyCluster cluster) = (hostsOf cluster).map tidyHost := by
  have htidy : (tidyCluster cluster).get? "hosts" =
      some (.arr (items.map (Json.onObject tidyHost))) := by
    rw [get?_hosts_tidyCluster, h, Option.map_some, Json.alterItems_arr]
  rw [hostsOf_of_items h, hostsOf_of_items htidy, List.filterMap_map, List.map_filterMap]
  exact List.filterMap_congr fun item _ => Json.object?_onObject tidyHost item

theorem infraEnvsOf_map_tidyHost (hosts : List Object) :
    infraEnvsOf (hosts.map tidyHost) = (infraEnvsOf hosts).map tidyInfraEnv := by
  rw [infraEnvsOf, infraEnvsOf, List.filterMap_map, List.map_filterMap]
  refine List.filterMap_congr fun host _ => ?_
  rw [Function.comp_apply, get?_infraEnv_tidyHost, Json.bind_object?_map_onObject]

/-- What is counted is nothing that is tidied. -/
theorem labelsOf_map_tidyInfraEnv {property : String} (h : property ∈ trackedProperties)
    (infraEnvs : List Object) :
    labelsOf property (infraEnvs.map tidyInfraEnv) = labelsOf property infraEnvs := by
  have hspared : property ∉ infraEnvSecrets ∧ property ≠ "user_name" ∧ property ≠ "user_id" := by
    revert property
    decide
  obtain ⟨hsecrets, hname, hid⟩ := hspared
  rw [labelsOf, labelsOf, List.filterMap_map]
  refine List.filterMap_congr fun infraEnv _ => ?_
  rw [Function.comp_apply, (spares_tidyInfraEnv hsecrets hname hid).get?]

theorem tally_map_tidyInfraEnv {property : String} (h : property ∈ trackedProperties)
    (infraEnvs : List Object) :
    tally property (infraEnvs.map tidyInfraEnv) = tally property infraEnvs := by
  rw [tally, tally, labelsOf_map_tidyInfraEnv h]

/-- Hosts are summarised alike before and after they are tidied. -/
theorem ofCluster_tidyCluster {cluster : Object} {items : List Json}
    (h : cluster.get? "hosts" = some (.arr items)) :
    ofCluster (tidyCluster cluster) = ofCluster cluster := by
  have hshares (total : Nat) (infraEnvs : List Object) :
      (trackedProperties.map fun property =>
        (property, shares total (tally property (infraEnvs.map tidyInfraEnv)))) =
      trackedProperties.map fun property => (property, shares total (tally property infraEnvs)) :=
    List.map_congr_left fun property hproperty => by rw [tally_map_tidyInfraEnv hproperty]
  have htype : "type" ∈ trackedProperties := by decide
  have harchitecture : "cpu_architecture" ∈ trackedProperties := by decide
  simp only [ofCluster, hostsOf_tidyCluster h, infraEnvsOf_map_tidyHost, List.length_map,
    hshares, tally_map_tidyInfraEnv htype, tally_map_tidyInfraEnv harchitecture]

end HostsSummary

/-! ## Documents of one shape -/

/-- Two objects with the same under all keys but some. -/
inductive Json.ObjectsAgree (keys : List String) : Json → Json → Prop
  | intro {o o' : Object} (h : AgreeExcept keys o o') : ObjectsAgree keys (.obj o) (.obj o')

namespace EnrichedEvent

/-- The keys of a host that rules name. -/
def ruledHostKeys : List String :=
  hostTexts ++ ["user_name", "user_id", "infra_env"]

/-- One document has the shape of another: its own fields are the same, and it has as many
hosts and infra-envs, each the object at its place in the other up to what rules name. -/
structure KeepsShape (e e' : EnrichedEvent) : Prop where
  id : e'.id = e.id
  message : e'.message = e.message
  category : e'.category = e.category
  clusterId : e'.clusterId = e.clusterId
  eventTime : e'.eventTime = e.eventTime
  name : e'.name = e.name
  requestId : e'.requestId = e.requestId
  severity : e'.severity = e.severity
  props : e'.props = e.props
  versions : e'.versions = e.versions
  releaseTag : e'.releaseTag = e.releaseTag
  hosts : ∃ items items', e.cluster.get? "hosts" = some (.arr items) ∧
    e'.cluster.get? "hosts" = some (.arr items') ∧
    List.Forall₂ (Json.ObjectsAgree ruledHostKeys) items items'
  infraEnvs : List.Forall₂ (Json.ObjectsAgree infraEnvSecrets) e.infraEnvs e'.infraEnvs

theorem agree_tidyHost (host : Object) : AgreeExcept ruledHostKeys host (tidyHost host) := by
  intro key hkey
  simp only [ruledHostKeys, List.mem_append, List.mem_cons, List.not_mem_nil, or_false,
    not_or] at hkey
  obtain ⟨htexts, hname, hid, hinfraEnv⟩ := hkey
  rw [tidyHost, withInfraEnv, Members.get?_alter, if_neg hinfraEnv,
    (spares_tidyHostFields htexts hname hid).get?]

theorem agree_eraseAll (keys : List String) (o : Object) :
    AgreeExcept keys o (eraseAll keys o) := by
  intro key hkey
  rw [get?_eraseAll, if_neg hkey]

/-- A change that keeps to some keys, of each object of a list. -/
theorem forall₂_map_obj {keys : List String} {f : Object → Object}
    (h : ∀ o, AgreeExcept keys o (f o)) (objects : List Object) :
    List.Forall₂ (Json.ObjectsAgree keys) (objects.map .obj)
      ((objects.map .obj).map (Json.onObject f)) := by
  induction objects with
  | nil => exact .nil
  | cons o rest ih => exact .cons (.intro (h o)) ih

theorem keepsShape_tidied {e : EnrichedEvent} {hosts infraEnvs : List Object}
    (hhosts : e.cluster.get? "hosts" = some (.arr (hosts.map .obj)))
    (hinfraEnvs : e.infraEnvs = infraEnvs.map .obj) : KeepsShape e e.tidied.summarised := by
  constructor
  case hosts =>
    refine ⟨_, _, hhosts, ?_, forall₂_map_obj agree_tidyHost hosts⟩
    simp only [summarised, tidied, get?_hosts_tidyCluster, hhosts, Option.map_some,
      Json.alterItems_arr]
  case infraEnvs =>
    simp only [summarised, tidied, hinfraEnvs]
    exact forall₂_map_obj (agree_eraseAll infraEnvSecrets) infraEnvs
  all_goals simp only [summarised, tidied]

theorem hostsSummary_tidied {e : EnrichedEvent} {hosts : List Object}
    (hhosts : e.cluster.get? "hosts" = some (.arr (hosts.map .obj))) :
    e.tidied.summarised.hostsSummary = some (HostsSummary.ofCluster e.cluster) := by
  simp only [summarised, tidied]
  rw [HostsSummary.ofCluster_tidyCluster hhosts]

/-- The standard rules make a document of every base document, so the state of a cluster is
never dropped, and what is stored for an activity has the shape of its base document and
the summary of its hosts. -/
theorem standard_keeps_shape (event : Event) (cluster : Snapshot)
    (hosts infraEnvs : List Snapshot) :
    ∃ document,
      ofJson? (FieldRules.standard.apply (base event cluster hosts infraEnvs).toJson) =
        some document ∧
      enrich .standard event cluster hosts infraEnvs = document.summarised ∧
      KeepsShape (base event cluster hosts infraEnvs)
        (enrich .standard event cluster hosts infraEnvs) ∧
      (enrich .standard event cluster hosts infraEnvs).hostsSummary =
        some (HostsSummary.ofCluster (base event cluster hosts infraEnvs).cluster) := by
  have hread := ofJson?_apply_standard (e := base event cluster hosts infraEnvs) rfl
  have henrich : enrich .standard event cluster hosts infraEnvs =
      (base event cluster hosts infraEnvs).tidied.summarised :=
    congrArg summarised (transformed_standard rfl)
  have hhosts := hosts_base event cluster hosts infraEnvs
  rw [henrich]
  exact ⟨_, hread, rfl, keepsShape_tidied hhosts rfl, hostsSummary_tidied hhosts⟩

end EnrichedEvent

end ClusterEvents
