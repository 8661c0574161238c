import ClusterEvents.Json.Record
import ClusterEvents.Json.Printer
import ClusterEvents.Json.Equality

/-!
# Enriched events

An enriched event is an activity together with what was known of its cluster when it
was processed. It is the document that goes to the search store, so it is written as
a record with a fixed order of fields, leaves out sections that are empty, and can be
read back from text as well as from a value.
-/

namespace ClusterEvents

-- Powers are those that numbers bring along, whatever else is imported.
attribute [local instance (high)] instPowNat instNatPowNat

/-- Which share of the hosts carries each label, for each tracked property; both in
ascending order. -/
abbrev LabelShares := List (String × List (String × Binary64))

/-- The hosts of a cluster at a glance. -/
structure HostsSummary where
  hostCount : Nat
  /-- The most common image type, or nothing when no host has one. -/
  isoType : String
  infraEnv : LabelShares
  hasHeterogeneousArchitecture : Bool
deriving DecidableEq

/-- An activity with the state of its cluster around it. -/
structure EnrichedEvent where
  id : String
  message : String
  category : String
  clusterId : String
  eventTime : String
  name : String
  requestId : String
  severity : String
  props : Object
  cluster : Object
  infraEnvs : List Json
  versions : Option Object
  releaseTag : Option String
  hostsSummary : Option HostsSummary
deriving DecidableEq

namespace HostsSummary

/-- How the fields of a summary are read. -/
def fields : List Json.Field := [
  ⟨"host_count", Json.Kind.natural (2 ^ (64 : Nat)), none⟩,
  ⟨"iso_type", Json.Kind.text, none⟩,
  ⟨"infra_env", Json.Kind.table (Json.Kind.table Json.Kind.double), none⟩,
  ⟨"has_heterogeneous_architecture", Json.Kind.truth, none⟩]

/-- Shares as a value. -/
def sharesValue (shares : LabelShares) : Json :=
  .obj (Object.ofList (shares.map fun (property, labels) =>
    (property, .obj (Object.ofList (labels.map fun (label, share) => (label, .double share))))))

/-- The number that stands for a share. -/
def share? : Json → Option Binary64
  | .int n => some (.ofInt n)
  | .double d => some d
  | _ => none

/-- The shares in a value. -/
def shares? (v : Json) : Option LabelShares := do
  let properties ← v.object?
  properties.toList.mapM fun (property, labels) => do
    let labels ← labels.object?
    let labels ← labels.toList.mapM fun (label, share) => do
      some (label, ← share? share)
    some (property, labels)

/-- The record that a summary is written as. -/
def document (s : HostsSummary) : Document :=
  .record [
    ("host_count", .value (.int s.hostCount)),
    ("iso_type", .value (.str s.isoType)),
    ("infra_env", .value (sharesValue s.infraEnv)),
    ("has_heterogeneous_architecture", .value (.bool s.hasHeterogeneousArchitecture))]

/-- The summary in a value; all its fields must be there. -/
def ofJson? (v : Json) : Option HostsSummary := do
  let field ← Json.fields? (fields.map (·.name)) v
  let hostCount ← match field "host_count" with
    | some (.int n) => if 0 ≤ n then some n.toNat else none
    | _ => none
  let isoType ← (field "iso_type").bind Json.text?
  let infraEnv ← (field "infra_env").bind shares?
  let mixed ← match field "has_heterogeneous_architecture" with
    | some (.bool b) => some b
    | _ => none
  some ⟨hostCount, isoType, infraEnv, mixed⟩

end HostsSummary

namespace EnrichedEvent

/-- How the part with the event's own properties is read. -/
def propsFields : List Json.Field := [
  ⟨"props", Json.Kind.table Json.Kind.any, some (.obj Object.empty)⟩]

/-- How the fields of an enriched event are read: each may be missing. -/
def fields : List Json.Field := [
  ⟨"id", Json.Kind.text, some (.str "")⟩,
  ⟨"message", Json.Kind.text, some (.str "")⟩,
  ⟨"category", Json.Kind.text, some (.str "")⟩,
  ⟨"cluster_id", Json.Kind.text, some (.str "")⟩,
  ⟨"event_time", Json.Kind.text, some (.str "")⟩,
  ⟨"name", Json.Kind.text, some (.str "")⟩,
  ⟨"request_id", Json.Kind.text, some (.str "")⟩,
  ⟨"severity", Json.Kind.text, some (.str "")⟩,
  ⟨"event", Json.Kind.record propsFields, some (.obj Object.empty)⟩,
  ⟨"cluster", Json.Kind.table Json.Kind.any, some (.obj Object.empty)⟩,
  ⟨"infra_envs", Json.Kind.list Json.Kind.any, some (.arr [])⟩,
  ⟨"versions", Json.Kind.optional (Json.Kind.table Json.Kind.any), some .null⟩,
  ⟨"release_tag", Json.Kind.optional Json.Kind.text, some .null⟩,
  ⟨"hosts_summary", Json.Kind.optional (Json.Kind.record HostsSummary.fields), some .null⟩]

/-- A text field; nothing stands for the empty text. -/
def textField? (v : Option Json) : Option String :=
  match v with
  | none => some ""
  | some (.str s) => some s
  | some _ => none

/-- An object field; nothing stands for the empty object. -/
def objectField? (v : Option Json) : Option Object :=
  match v with
  | none => some .empty
  | some (.obj o) => some o
  | some _ => none

/-- A list field; nothing stands for the empty list. -/
def listField? (v : Option Json) : Option (List Json) :=
  match v with
  | none => some []
  | some (.arr items) => some items
  | some _ => none

/-- A field that may be null or missing. -/
def nullableField? {α : Type} (read : Json → Option α) (v : Option Json) :
    Option (Option α) :=
  match v with
  | none | some .null => some none
  | some v => (read v).map some

/-- The event's own properties, one record further down. -/
def propsField? (v : Option Json) : Option Object :=
  match v with
  | none => some .empty
  | some v => do
    let field ← Json.fields? (propsFields.map (·.name)) v
    objectField? (field "props")

/-- The enriched event in a value. Fields may be missing, but not of another kind. -/
def ofJson? (v : Json) : Option EnrichedEvent := do
  let field ← Json.fields? (fields.map (·.name)) v
  some {
    id := ← textField? (field "id")
    message := ← textField? (field "message")
    category := ← textField? (field "category")
    clusterId := ← textField? (field "cluster_id")
    eventTime := ← textField? (field "event_time")
    name := ← textField? (field "name")
    requestId := ← textField? (field "request_id")
    severity := ← textField? (field "severity")
    props := ← propsField? (field "event")
    cluster := ← objectField? (field "cluster")
    infraEnvs := ← listField? (field "infra_envs")
    versions := ← nullableField? Json.object? (field "versions")
    releaseTag := ← nullableField? Json.text? (field "release_tag")
    hostsSummary := ← nullableField? HostsSummary.ofJson? (field "hosts_summary") }

/-- The enriched event that bytes hold as JSON text. -/
def ofBytes (bytes : Bytes) : Except Json.ReadError EnrichedEvent := do
  let record ← Json.ofBytesAs (Json.Kind.record fields) bytes
  match ofJson? record with
  | some e => .ok e
  | none => .error .wrongShape

/-- A field, unless it is to be left out. -/
def fieldUnless (leftOut : Bool) (field : String × Document) : List (String × Document) :=
  if leftOut then [] else [field]

/-- The record that an enriched event is written as. -/
def document (e : EnrichedEvent) : Document :=
  .record (
    [("id", .value (.str e.id)),
      ("message", .value (.str e.message)),
      ("category", .value (.str e.category)),
      ("cluster_id", .value (.str e.clusterId)),
      ("event_time", .value (.str e.eventTime)),
      ("name", .value (.str e.name)),
      ("request_id", .value (.str e.requestId)),
      ("severity", .value (.str e.severity))]
    ++ fieldUnless e.props.isEmpty ("event", .record [("props", .value (.obj e.props))])
    ++ [("cluster", .value (.obj e.cluster))]
    ++ fieldUnless e.infraEnvs.isEmpty ("infra_envs", .value (.arr e.infraEnvs))
    ++ [("versions", .value ((e.versions.map .obj).getD .null))]
    ++ fieldUnless e.releaseTag.isNone ("release_tag", .value ((e.releaseTag.map .str).getD .null))
    ++ [("hosts_summary", (e.hostsSummary.map HostsSummary.document).getD (.value .null))])

/-- An enriched event as JSON text. -/
def encode (e : EnrichedEvent) : String :=
  e.document.print

/-- An enriched event as a value. -/
def toJson (e : EnrichedEvent) : Json :=
  e.document.toJson

end EnrichedEvent

end ClusterEvents
