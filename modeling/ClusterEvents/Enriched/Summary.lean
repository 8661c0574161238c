import ClusterEvents.Enriched.Basic
import ClusterEvents.Text.Cut

/-!
# The hosts of a cluster at a glance

Hosts are counted by the labels that their infra-envs carry under three tracked
properties. A `Tally` holds the exact counts, in ascending order of labels; shares
are the counts over the number of hosts that have an infra-env at all, so they are
rounded only when the summary is written.
-/

namespace ClusterEvents

/-- How often each label occurs, in ascending order of labels. -/
abbrev Tally := List (String × Nat)

namespace Tally

/-- Counts a label once more. -/
def add (label : String) : Tally → Tally
  | [] => [(label, 1)]
  | (other, n) :: rest =>
    if label < other then (label, 1) :: (other, n) :: rest
    else if label = other then (other, n + 1) :: rest
    else (other, n) :: add label rest

/-- How often each of the labels occurs. -/
def ofLabels (labels : List String) : Tally :=
  labels.foldl (fun tally label => tally.add label) []

/-- The most frequent label, and its count; of several the smallest. -/
def top? : Tally → Option (String × Nat)
  | [] => none
  | (label, n) :: rest =>
    match top? rest with
    | none => some (label, n)
    | some (other, m) => if n < m then some (other, m) else some (label, n)

end Tally

namespace HostsSummary

/-- The properties of infra-envs that are tracked, in ascending order. -/
def trackedProperties : List String := ["cpu_architecture", "openshift_version", "type"]

/-- A label as it is counted: dots would read as path separators further on. -/
def plainLabel (label : String) : String :=
  String.ofList (label.toList.map fun c => if c = '.' then '_' else c)

/-- The hosts of a cluster: the objects in the list under `hosts`. -/
def hostsOf (cluster : Object) : List Object :=
  (((cluster.get? "hosts").bind Json.items?).getD []).filterMap Json.object?

/-- The infra-envs that hosts carry. -/
def infraEnvsOf (hosts : List Object) : List Object :=
  hosts.filterMap fun host => (host.get? "infra_env").bind Json.object?

/-- The labels that infra-envs have under a property. -/
def labelsOf (property : String) (infraEnvs : List Object) : List String :=
  infraEnvs.filterMap fun infraEnv =>
    ((infraEnv.get? property).bind Json.text?).map plainLabel

/-- How often each label occurs under a property. -/
def tally (property : String) (infraEnvs : List Object) : Tally :=
  Tally.ofLabels (labelsOf property infraEnvs)

/-- The shares of labels among so many infra-envs. -/
def shares (total : Nat) (tally : Tally) : List (String × Binary64) :=
  tally.map fun (label, count) => (label, Binary64.ofFraction false count total)

/-- The summary of the hosts of a cluster. Architectures are mixed when the most
common one does not cover every infra-env; without any label there is nothing to be
mixed. -/
def ofCluster (cluster : Object) : HostsSummary :=
  let hosts := hostsOf cluster
  let infraEnvs := infraEnvsOf hosts
  let total := infraEnvs.length
  { hostCount := hosts.length
    isoType := ((tally "type" infraEnvs).top?.map Prod.fst).getD ""
    infraEnv := trackedProperties.map fun property =>
      (property, shares total (tally property infraEnvs))
    hasHeterogeneousArchitecture :=
      match (tally "cpu_architecture" infraEnvs).top? with
      | some (_, count) => decide (count < total)
      | none => false }

end HostsSummary

end ClusterEvents
