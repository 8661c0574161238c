import ClusterEvents.Json.Edit
import ClusterEvents.Json.Record
import ClusterEvents.Digest.Md5

/-!
# Field rules

Before an enriched event is stored, its fields are brought into shape and relieved of
secrets. Rules name the paths for each of five stages, which run in this order:
texts holding JSON are unpacked, maps become lists (without and with their keys),
names are replaced by digests under another field, and secrets are deleted.
-/

namespace ClusterEvents

/-- The paths that each stage applies to. -/
structure FieldRules where
  /-- Texts that are replaced by the JSON they hold. -/
  unpack : List String
  /-- Maps that are replaced by the list of their values. -/
  listValues : List String
  /-- Maps that are replaced by a list of their entries. -/
  listEntries : List String
  /-- Values that are replaced by their digest and moved from source to target. -/
  anonymize : List (String × String)
  /-- What is removed. -/
  delete : List String
deriving DecidableEq, Repr

namespace FieldRules

/-- The rules that hold when none are configured. -/
def standard : FieldRules where
  unpack := [
    "cluster.feature_usage",
    "cluster.validations_info",
    "cluster.connectivity_majority_groups",
    "cluster.hosts[*].inventory",
    "cluster.hosts[*].connectivity",
    "cluster.hosts[*].disks_info",
    "cluster.hosts[*].domain_name_resolutions",
    "cluster.hosts[*].free_addresses",
    "cluster.hosts[*].images_status",
    "cluster.hosts[*].ntp_sources",
    "cluster.hosts[*].validations_info"]
  listValues := ["cluster.feature_usage"]
  listEntries := [
    "cluster.connectivity_majority_groups",
    "cluster.hosts[*].disks_info",
    "cluster.hosts[*].images_status"]
  anonymize := [
    ("cluster.user_name", "cluster.user_id"),
    ("cluster.hosts[*].user_name", "cluster.hosts[*].user_id"),
    ("cluster.hosts[*].infra_env.user_name", "cluster.hosts[*].infra_env.user_id")]
  delete := [
    "cluster.pull_secret",
    "cluster.ssh_public_key",
    "cluster.hosts[*].infra_env.ssh_authorized_key",
    "infra_envs[*].ssh_authorized_key"]

/-- What is said of a value that is no map where one is wanted. -/
def notAMap : String := "value is not a map"

/-- The values of a map, in the order of their keys. -/
def valuesOf : Json → Except String Json
  | .obj members => .ok (.arr members.values)
  | _ => .error notAMap

/-- An entry of a map as an element of a list. An object takes its key up as its
`id`; any other value stands beside its key. -/
def entry (key : String) : Json → Json
  | .obj members => .obj (members.insert "id" (.str key))
  | v => .obj ((Object.empty.insert "key" (.str key)).insert "value" v)

/-- The entries of a map, in the order of their keys. -/
def entriesOf : Json → Except String Json
  | .obj members => .ok (.arr (members.toList.map fun (key, v) => entry key v))
  | _ => .error notAMap

/-- A text is replaced by its digest; every other value stays as it is. -/
def anonymous : Json → Json
  | .str s => .str (Digest.Md5.hexText s)
  | v => v

/-- Runs the five stages over a document. Paths that cannot be followed are skipped and
reported. -/
def run (rules : FieldRules) (document : Json) : Json.Edited :=
  let unpacked := Json.transform .ok rules.unpack document
  let listed := Json.transform valuesOf rules.listValues unpacked.1
  let keyed := Json.transform entriesOf rules.listEntries listed.1
  let sources := rules.anonymize.map Prod.fst
  let hashed := Json.transform (fun v => .ok (anonymous v)) sources keyed.1
  let moved := Json.rename rules.anonymize hashed.1
  let deleted := Json.delete rules.delete moved.1
  (deleted.1, unpacked.2 ++ listed.2 ++ keyed.2 ++ hashed.2 ++ moved.2 ++ deleted.2)

/-- What the five stages make of a document. -/
def apply (rules : FieldRules) (document : Json) : Json :=
  (rules.run document).1

/-- The names of the fields in a value that holds rules. -/
def fieldNames : List String :=
  ["unpack", "map_to_list_drop_key", "map_to_list", "anonymize", "delete"]

/-- A list of paths; when it is missing, the standard one holds. -/
def paths? (standard : List String) (v : Option Json) : Option (List String) :=
  match v with
  | none => some standard
  | some v => v.items?.bind fun items => items.mapM Json.text?

/-- A pair of paths. -/
def pair? : Json → Option (String × String)
  | .arr [.str source, .str target] => some (source, target)
  | _ => none

/-- A list of pairs of paths; when it is missing, the standard one holds. -/
def pairs? (standard : List (String × String)) (v : Option Json) :
    Option (List (String × String)) :=
  match v with
  | none => some standard
  | some v => v.items?.bind fun items => items.mapM pair?

/-- The rules in a value. -/
def ofJson? (v : Json) : Option FieldRules := do
  let field ← Json.fields? fieldNames v
  some {
    unpack := ← paths? standard.unpack (field "unpack")
    listValues := ← paths? standard.listValues (field "map_to_list_drop_key")
    listEntries := ← paths? standard.listEntries (field "map_to_list")
    anonymize := ← pairs? standard.anonymize (field "anonymize")
    delete := ← paths? standard.delete (field "delete") }

end FieldRules

end ClusterEvents
