import Mathlib.Algebra.Order.Field.Rat
import Mathlib.Data.Rat.Cast.Order
import ClusterEvents.Proofs.Enriched.Tallies
import ClusterEvents.Proofs.Text.ByteOrder

/-!
# What a summary says of the hosts

A summary is about the elements of the list of hosts, which may be anything. `IsHost`,
`IsEquipped` and `Counts` say which of them are hosts, which of these have an infra-env, and which
have a label under a property; `Summarises` says how a summary is made up of the numbers of these.
A share is written as a double, but it stands for the fraction of two such numbers, `exactShare`.
The shares of a property are positive and come to one together, or to less if some infra-env has
no label (`sharesOf_tallyOf`).

Only numbers count, so the summary does not depend on the order of the list
(`ofCluster_eq_of_perm`).
-/

namespace ClusterEvents

namespace Tally

theorem sum_add (tally : Tally) (label : String) :
    ((tally.add label).map Prod.snd).sum = (tally.map Prod.snd).sum + 1 := by
  induction tally with
  | nil => rfl
  | cons entry rest ih =>
      rw [add]
      split_ifs <;> simp only [List.map_cons, List.sum_cons, ih] <;> omega

/-- Each occurrence of a label is counted once. -/
theorem sum_counts (labels : List String) :
    ((ofLabels labels).map Prod.snd).sum = labels.length := by
  induction labels using List.reverseRecOn with
  | nil => rfl
  | append_singleton labels label ih =>
      rw [ofLabels_concat, sum_add, ih, List.length_append, List.length_singleton]

theorem sum_div (tally : Tally) (total : Nat) :
    (tally.map fun entry => (entry.2 : ℚ) / total).sum =
      ((tally.map Prod.snd).sum : Nat) / (total : ℚ) := by
  induction tally with
  | nil => simp
  | cons entry rest ih => simp [ih, add_div]

end Tally

namespace HostsSummary

/-! ## The elements of the list of hosts -/

/-- The elements of the list of hosts, if there is one. -/
def hostItems (cluster : Object) : List Json :=
  ((cluster.get? "hosts").bind Json.items?).getD []

/-- The element is a host. -/
inductive IsHost : Json → Prop
  | intro (host : Object) : IsHost (.obj host)

/-- The element is a host with an infra-env. -/
inductive IsEquipped : Json → Prop
  | intro {host infraEnv : Object} (carried : host.get? "infra_env" = some (.obj infraEnv)) :
      IsEquipped (.obj host)

/-- The element is a host whose infra-env has a label under the property. -/
inductive Counts (property : String) : Json → String → Prop
  | intro {host infraEnv : Object} {label : String}
      (carried : host.get? "infra_env" = some (.obj infraEnv))
      (labelled : HasLabel property infraEnv label) : Counts property (.obj host) label

/-- The infra-env of an element. -/
def infraEnvIn? (item : Json) : Option Object :=
  item.object?.bind fun host => (host.get? "infra_env").bind Json.object?

variable {item : Json} {items : List Json} {infraEnv cluster : Object} {property label : String}

theorem isHost_iff : IsHost item ↔ item.object?.isSome := by
  constructor
  · rintro ⟨host⟩
    rfl
  · intro h
    obtain ⟨host, hhost⟩ := Option.isSome_iff_exists.1 h
    exact Json.object?_eq_some_iff.1 hhost ▸ .intro host

theorem infraEnvIn?_eq_some_iff : infraEnvIn? item = some infraEnv ↔
    ∃ host, item = .obj host ∧ host.get? "infra_env" = some (.obj infraEnv) := by
  simp only [infraEnvIn?, Option.bind_eq_some_iff, Json.object?_eq_some_iff, exists_eq_right]

theorem isEquipped_iff : IsEquipped item ↔ (infraEnvIn? item).isSome := by
  rw [Option.isSome_iff_exists]
  simp only [infraEnvIn?_eq_some_iff]
  constructor
  · rintro ⟨hcarried⟩
    exact ⟨_, _, rfl, hcarried⟩
  · rintro ⟨infraEnv, host, rfl, hcarried⟩
    exact ⟨hcarried⟩

theorem counts_iff :
    Counts property item label ↔ ∃ infraEnv ∈ infraEnvIn? item, HasLabel property infraEnv label := by
  simp only [Option.mem_def, infraEnvIn?_eq_some_iff]
  constructor
  · rintro ⟨hcarried, hlabelled⟩
    exact ⟨_, ⟨_, rfl, hcarried⟩, hlabelled⟩
  · rintro ⟨infraEnv, ⟨host, rfl, hcarried⟩, hlabelled⟩
    exact ⟨hcarried, hlabelled⟩

instance : Decidable (IsHost item) :=
  decidable_of_iff _ isHost_iff.symm

instance : Decidable (IsEquipped item) :=
  decidable_of_iff _ isEquipped_iff.symm

instance : Decidable (Counts property item label) :=
  decidable_of_iff _ counts_iff.symm

/-! ## Their numbers -/

/-- How many hosts have an infra-env. -/
def total (items : List Json) : Nat :=
  items.countP fun item => IsEquipped item

/-- How many hosts have a label under a property. -/
def count (items : List Json) (property label : String) : Nat :=
  items.countP fun item => Counts property item label

/-- The fraction that the share of a label stands for. -/
def exactShare (items : List Json) (property label : String) : ℚ :=
  count items property label / total items

theorem length_hostsOf (cluster : Object) :
    (hostsOf cluster).length = (hostItems cluster).countP fun item => IsHost item := by
  rw [hostsOf, List.length_filterMap_eq_countP]
  exact List.countP_congr fun item _ => by rw [decide_eq_true_iff, isHost_iff]

theorem infraEnvsOf_hostsOf (cluster : Object) :
    infraEnvsOf (hostsOf cluster) = (hostItems cluster).filterMap infraEnvIn? :=
  List.filterMap_filterMap

theorem length_infraEnvs (items : List Json) :
    (items.filterMap infraEnvIn?).length = total items := by
  rw [List.length_filterMap_eq_countP, total]
  exact List.countP_congr fun item _ => by rw [decide_eq_true_iff, isEquipped_iff]

theorem count_labels (items : List Json) (property label : String) :
    (labelsOf property (items.filterMap infraEnvIn?)).count label = count items property label := by
  rw [count_labelsOf, List.countP_filterMap, count]
  refine List.countP_congr fun item _ => ?_
  rw [decide_eq_true_iff, counts_iff]
  cases infraEnvIn? item <;> simp

theorem mem_labels :
    label ∈ labelsOf property (items.filterMap infraEnvIn?) ↔
      ∃ item ∈ items, Counts property item label := by
  simp only [mem_labelsOf, List.mem_filterMap, counts_iff, Option.mem_def]
  constructor
  · rintro ⟨infraEnv, ⟨item, hitem, hfound⟩, hlabelled⟩
    exact ⟨item, hitem, infraEnv, hfound, hlabelled⟩
  · rintro ⟨item, hitem, infraEnv, hfound, hlabelled⟩
    exact ⟨infraEnv, ⟨item, hitem, hfound⟩, hlabelled⟩

theorem count_pos (h : ∃ item ∈ items, Counts property item label) :
    0 < count items property label := by
  obtain ⟨item, hitem, hcounts⟩ := h
  exact List.countP_pos_iff.2 ⟨item, hitem, decide_eq_true hcounts⟩

theorem exactShare_pos (h : ∃ item ∈ items, Counts property item label) :
    0 < exactShare items property label := by
  have htotal : 0 < total items := by
    obtain ⟨item, hitem, hcarried, -⟩ := h
    exact List.countP_pos_iff.2 ⟨_, hitem, decide_eq_true ⟨hcarried⟩⟩
  exact div_pos (Nat.cast_pos.2 (count_pos h)) (Nat.cast_pos.2 htotal)

/-! ## Shares -/

/-- What a summary has under a property: the labels that hosts have, each with the double for its
exact share. The exact shares come to one together if every infra-env has a label, and to less
otherwise. -/
structure SharesOf (items : List Json) (property : String)
    (shares : List (String × Binary64)) : Prop where
  ascending : shares.Pairwise fun a b => a.1 < b.1
  mem_iff (label : String) (share : Binary64) : (label, share) ∈ shares ↔
    (∃ item ∈ items, Counts property item label) ∧
      share = Binary64.ofFraction false (count items property label) (total items)
  pos : ∀ entry ∈ shares, 0 < exactShare items property entry.1
  sum_le_one : (shares.map fun entry => exactShare items property entry.1).sum ≤ 1
  sum_eq_one_iff : (shares.map fun entry => exactShare items property entry.1).sum = 1 ↔
    (∃ item ∈ items, IsEquipped item) ∧
      ∀ item ∈ items, IsEquipped item → ∃ label, Counts property item label

/-- The tally of a property over the elements of the list of hosts. -/
def tallyOf (items : List Json) (property : String) : Tally :=
  tally property (items.filterMap infraEnvIn?)

theorem mem_tallyOf {n : Nat} : (label, n) ∈ tallyOf items property ↔
    (∃ item ∈ items, Counts property item label) ∧ count items property label = n := by
  rw [tallyOf, tally, Tally.mem_ofLabels, mem_labels, count_labels]

theorem sum_exactShares (items : List Json) (property : String) :
    ((tallyOf items property).map fun entry => exactShare items property entry.1).sum =
      ((labelsOf property (items.filterMap infraEnvIn?)).length : ℚ) / total items := by
  have hshares : (tallyOf items property).map (fun entry => exactShare items property entry.1) =
      (tallyOf items property).map fun entry => (entry.2 : ℚ) / total items :=
    List.map_congr_left fun entry hentry => by rw [exactShare, (mem_tallyOf.1 hentry).2]
  rw [hshares, Tally.sum_div, tallyOf, tally, Tally.sum_counts]

theorem length_labels_le (items : List Json) (property : String) :
    (labelsOf property (items.filterMap infraEnvIn?)).length ≤ total items := by
  rw [← length_infraEnvs]
  exact List.length_filterMap_le ..

/-- There are as many labels as infra-envs exactly when each infra-env has one. -/
theorem length_labels_eq_iff :
    (labelsOf property (items.filterMap infraEnvIn?)).length = total items ↔
      ∀ item ∈ items, IsEquipped item → ∃ label, Counts property item label := by
  rw [← length_infraEnvs, labelsOf, List.filterMap_length_eq_length]
  simp only [List.mem_filterMap, Option.isSome_iff_exists, ← hasLabel_iff, isEquipped_iff,
    counts_iff, Option.mem_def]
  constructor
  · rintro h item hitem ⟨infraEnv, hfound⟩
    obtain ⟨label, hlabel⟩ := h infraEnv ⟨item, hitem, hfound⟩
    exact ⟨label, infraEnv, hfound, hlabel⟩
  · rintro h infraEnv ⟨item, hitem, hfound⟩
    obtain ⟨label, other, hother, hlabel⟩ := h item hitem ⟨infraEnv, hfound⟩
    exact ⟨label, Option.some.inj (hother.symm.trans hfound) ▸ hlabel⟩

theorem total_pos_iff : 0 < total items ↔ ∃ item ∈ items, IsEquipped item := by
  simp only [total, List.countP_pos_iff, decide_eq_true_eq]

theorem sharesOf_tallyOf (items : List Json) (property : String) :
    SharesOf items property (shares (total items) (tallyOf items property)) where
  ascending := List.pairwise_map.2 (Tally.pairwise_ofLabels _)
  mem_iff label share := by
    simp only [shares, List.mem_map, Prod.exists, Prod.mk.injEq, mem_tallyOf]
    constructor
    · rintro ⟨_, _, ⟨hcounts, rfl⟩, rfl, rfl⟩
      exact ⟨hcounts, rfl⟩
    · rintro ⟨hcounts, rfl⟩
      exact ⟨label, _, ⟨hcounts, rfl⟩, rfl, rfl⟩
  pos entry hentry := by
    obtain ⟨⟨label, n⟩, hmem, rfl⟩ := List.mem_map.1 hentry
    exact exactShare_pos (mem_tallyOf.1 hmem).1
  sum_le_one := by
    rw [shares, List.map_map]
    refine (sum_exactShares items property).trans_le (div_le_one_of_le₀ ?_ (Nat.cast_nonneg _))
    exact Nat.cast_le.2 (length_labels_le items property)
  sum_eq_one_iff := by
    rw [shares, List.map_map]
    refine (Eq.congr_left (sum_exactShares items property)).trans ?_
    rw [← total_pos_iff, ← length_labels_eq_iff]
    rcases Nat.eq_zero_or_pos (total items) with hzero | hpos
    · simp [hzero]
    · rw [div_eq_one_iff_eq (Nat.cast_ne_zero.2 hpos.ne'), Nat.cast_inj]
      simp [hpos]

/-! ## The most common label -/

/-- No label is that of more hosts, and of those with as many the label has the smallest bytes. -/
structure IsMostCommon (items : List Json) (property label : String) : Prop where
  counted : ∃ item ∈ items, Counts property item label
  count_le (other : String) : count items property other ≤ count items property label
  first (other : String) : count items property other = count items property label →
    other ≠ label → Bytes.ofString label < Bytes.ofString other

theorem isMostCommon_of_top? {n : Nat} (h : (tallyOf items property).top? = some (label, n)) :
    IsMostCommon items property label := by
  obtain ⟨hcounts, hn⟩ := mem_tallyOf.1 (Tally.mem_of_top? h)
  obtain ⟨-, -, hle⟩ := Tally.of_top?_ofLabels h
  refine ⟨hcounts, fun other => ?_, fun other heq hne => ?_⟩
  · rw [hn, ← count_labels]
    exact hle other
  · have hpos : 0 < count items property other := heq ▸ count_pos hcounts
    obtain ⟨item, hitem, hother⟩ := List.countP_pos_iff.1 hpos
    have hmem : (other, n) ∈ tallyOf items property :=
      mem_tallyOf.2 ⟨⟨item, hitem, of_decide_eq_true hother⟩, heq.trans hn⟩
    exact (Bytes.ofString_lt_ofString_iff label other).2
      (Tally.lt_of_top? (Tally.pairwise_ofLabels _) h _ hmem rfl hne)

theorem not_counts_of_top? (h : (tallyOf items property).top? = none) (hitem : item ∈ items) :
    ¬ Counts property item label := by
  intro hcounts
  have hmem := mem_tallyOf.2 ⟨⟨item, hitem, hcounts⟩, rfl⟩
  rw [Tally.top?_eq_none_iff.1 h] at hmem
  exact List.not_mem_nil hmem

/-! ## The summary -/

/-- What a summary says of the elements of the list of hosts: how many are hosts, the shares of
labels under the three properties, and the most common label under one of them. -/
structure Summarises (items : List Json) (s : HostsSummary) : Prop where
  hostCount : s.hostCount = items.countP fun item => IsHost item
  properties : s.infraEnv.map Prod.fst = ["cpu_architecture", "openshift_version", "type"]
  shares : ∀ stat ∈ s.infraEnv, SharesOf items stat.1 stat.2
  isoType : IsMostCommon items "type" s.isoType ∨
    (∀ item ∈ items, ∀ label, ¬ Counts "type" item label) ∧ s.isoType = ""

theorem infraEnv_ofCluster (cluster : Object) :
    (ofCluster cluster).infraEnv = trackedProperties.map fun property =>
      (property, shares (total (hostItems cluster)) (tallyOf (hostItems cluster) property)) := by
  simp only [ofCluster, infraEnvsOf_hostsOf, length_infraEnvs]
  rfl

theorem isoType_ofCluster (cluster : Object) :
    (ofCluster cluster).isoType =
      ((tallyOf (hostItems cluster) "type").top?.map Prod.fst).getD "" := by
  simp only [ofCluster, infraEnvsOf_hostsOf]
  rfl

theorem summarises_ofCluster (cluster : Object) :
    Summarises (hostItems cluster) (ofCluster cluster) where
  hostCount := length_hostsOf cluster
  properties := by
    rw [infraEnv_ofCluster, List.map_map]
    rfl
  shares stat hstat := by
    rw [infraEnv_ofCluster] at hstat
    obtain ⟨property, -, rfl⟩ := List.mem_map.1 hstat
    exact sharesOf_tallyOf (hostItems cluster) property
  isoType := by
    rw [isoType_ofCluster]
    cases htop : (tallyOf (hostItems cluster) "type").top? with
    | none => exact .inr ⟨fun item hitem label => not_counts_of_top? htop hitem, rfl⟩
    | some entry => exact .inl (isMostCommon_of_top? htop)

theorem ofCluster_eq_of_perm {cluster cluster' : Object}
    (h : (hostItems cluster).Perm (hostItems cluster')) : ofCluster cluster = ofCluster cluster' := by
  have hhosts : (hostsOf cluster).Perm (hostsOf cluster') := h.filterMap Json.object?
  have hinfraEnvs : (infraEnvsOf (hostsOf cluster)).Perm (infraEnvsOf (hostsOf cluster')) :=
    hhosts.filterMap _
  have htally (property : String) : tally property (infraEnvsOf (hostsOf cluster)) =
      tally property (infraEnvsOf (hostsOf cluster')) :=
    Tally.ofLabels_eq_of_perm (hinfraEnvs.filterMap _)
  simp only [ofCluster, hhosts.length_eq, hinfraEnvs.length_eq, htally]

theorem hostItems_insert (cluster : Object) (items : List Json) :
    hostItems (cluster.insert "hosts" (.arr items)) = items := by
  rw [hostItems, Members.get?_insert, if_pos rfl]
  rfl

/-- A summary says how many hosts there are, which shares of their infra-envs have which label, and
which image type is the most common; and it says the same however the hosts are arranged. -/
theorem ofCluster_exact (cluster : Object) :
    Summarises (hostItems cluster) (ofCluster cluster) ∧
      ∀ items, (hostItems cluster).Perm items →
        ofCluster (cluster.insert "hosts" (.arr items)) = ofCluster cluster := by
  refine ⟨summarises_ofCluster cluster, fun items h => ofCluster_eq_of_perm ?_⟩
  rw [hostItems_insert]
  exact h.symm

/-- A host whose infra-env has a version. -/
def hostWith (version : Json) : Json :=
  .obj (Object.ofList [("infra_env", .obj (Object.ofList [("openshift_version", version)]))])

/-- Two spellings of a version that count as one label, a version that is no text, a host without
an infra-env, and something that is no host. -/
def oddHosts : List Json :=
  [hostWith (.str "4.12"), .null, hostWith (.int 4), .obj Object.empty, hostWith (.str "4_12")]

theorem ofCluster_exact_reversed :
    count oddHosts "openshift_version" "4_12" = 2 ∧ total oddHosts = 3 ∧
      Summarises (hostItems (Object.ofList [("hosts", .arr oddHosts)]))
        (ofCluster (Object.ofList [("hosts", .arr oddHosts)])) ∧
      (hostItems (Object.ofList [("hosts", .arr oddHosts)])).Perm oddHosts.reverse ∧
      ofCluster ((Object.ofList [("hosts", .arr oddHosts)]).insert "hosts" (.arr oddHosts.reverse)) =
        ofCluster (Object.ofList [("hosts", .arr oddHosts)]) := by
  obtain ⟨hsummarises, hperm⟩ := ofCluster_exact (Object.ofList [("hosts", .arr oddHosts)])
  have h : (hostItems (Object.ofList [("hosts", .arr oddHosts)])).Perm oddHosts.reverse :=
    (List.reverse_perm oddHosts).symm
  exact ⟨by decide +kernel, by decide +kernel, hsummarises, h, hperm _ h⟩

end HostsSummary

end ClusterEvents
