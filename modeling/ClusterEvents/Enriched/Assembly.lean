import ClusterEvents.Event.Basic
import ClusterEvents.Enriched.Summary
import ClusterEvents.Enriched.Rules
import ClusterEvents.Digest.NameId

/-!
# Enriching an activity

An activity and the state of its cluster are put together into a base document, the
field rules are run over it, and the hosts are summarised. Should the rules leave
something that is no enriched event any more, the state of the cluster is dropped
rather than stored as it came.
-/

namespace ClusterEvents

/-- What is known of an entity: the payload of its last state event. -/
abbrev Snapshot := Object

namespace EnrichedEvent

/-- The namespace of document identifiers. -/
def idNamespace : Bytes := Bytes.ofString "abcdefghilmnopqr"

/-- What a document identifier is derived from: message and time, one behind the
other. -/
def idName (message eventTime : String) : Bytes :=
  Bytes.ofString (message ++ eventTime)

/-- The identifier of an activity's document. It depends on message and time alone,
so an activity that is delivered again replaces its document. -/
def documentId (message eventTime : String) : String :=
  Digest.NameId.ofName idNamespace (idName message eventTime)

/-- The host with the infra-env that its `infra_env_id` names, if there is one. -/
def embedInfraEnv (infraEnvs : List Snapshot) (host : Snapshot) : Snapshot :=
  match host.get? "infra_env_id" with
  | none => host
  | some id =>
    match infraEnvs.find? fun infraEnv => (infraEnv.get? "id").any (·.same id) with
    | none => host
    | some infraEnv => host.insert "infra_env" (.obj infraEnv)

/-- The hosts, each with its infra-env. -/
def embedInfraEnvs (hosts infraEnvs : List Snapshot) : List Snapshot :=
  hosts.map (embedInfraEnv infraEnvs)

/-- The text under a key of an event's payload, empty when there is none. -/
def payloadText (event : Event) (key : String) : String :=
  (event.payloadText? key).getD ""

/-- The object that a text holds. -/
def objectIn? (text : String) : Option Object :=
  match Json.ofText text with
  | .ok (.obj members) => some members
  | _ => none

/-- The event's own properties: the object that the text under `props` holds. -/
def propsOf (event : Event) : Object :=
  ((event.payloadText? "props").bind objectIn?).getD Object.empty

/-- Whether an event has a text under `props` that holds no object. -/
def hasBadProps (event : Event) : Bool :=
  (event.payloadText? "props").any fun text => (objectIn? text).isNone

/-- The document before any rule is run. -/
def base (event : Event) (cluster : Snapshot) (hosts infraEnvs : List Snapshot) :
    EnrichedEvent :=
  let message := payloadText event "message"
  let eventTime := payloadText event "event_time"
  { id := documentId message eventTime
    message
    category := payloadText event "category"
    clusterId := payloadText event "cluster_id"
    eventTime
    name := payloadText event "name"
    requestId := payloadText event "request_id"
    severity := payloadText event "severity"
    props := propsOf event
    cluster := cluster.insert "hosts" (.arr ((embedInfraEnvs hosts infraEnvs).map .obj))
    infraEnvs := infraEnvs.map .obj
    versions := event.versions?
    releaseTag := event.releaseTag?
    hostsSummary := none }

/-- The document without the state of the cluster. -/
def withoutSnapshots (e : EnrichedEvent) : EnrichedEvent :=
  { e with cluster := Object.empty, infraEnvs := [] }

/-- The document after the rules have been run over it. -/
def transformed (rules : FieldRules) (e : EnrichedEvent) : EnrichedEvent :=
  match ofJson? (rules.apply e.toJson) with
  | some transformed => transformed
  | none => e.withoutSnapshots

/-- The document with the summary of its own hosts. -/
def summarised (e : EnrichedEvent) : EnrichedEvent :=
  { e with hostsSummary := some (HostsSummary.ofCluster e.cluster) }

/-- The document to store for an activity, given what is known of its cluster. -/
def enrich (rules : FieldRules) (event : Event) (cluster : Snapshot)
    (hosts infraEnvs : List Snapshot) : EnrichedEvent :=
  ((base event cluster hosts infraEnvs).transformed rules).summarised

end EnrichedEvent

end ClusterEvents
