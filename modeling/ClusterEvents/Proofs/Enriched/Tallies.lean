import Mathlib.Data.List.Count
import Mathlib.Data.List.Induction
import ClusterEvents.Enriched.Summary
import ClusterEvents.Proofs.Text.Entries

/-!
# What a tally counts

A tally of labels has an entry for each label that occurs, with the number of times that it
does (`mem_ofLabels`), and its top is an entry that no other exceeds. Which infra-envs a
cluster has and which labels they have is said by `Carries` and `HasLabel`, apart from how
they are gathered, and the labels of a property are as often in the list of labels as there
are infra-envs that have them (`count_labelsOf`).
-/

namespace ClusterEvents

namespace Tally

variable {tally : Tally} {labels : List String} {label : String} {n : Nat}

/-- Where labels ascend, counting one once more puts a count under it. -/
theorem add_eq_put (h : tally.Pairwise fun a b => a.1 < b.1) (label : String) :
    tally.add label =
      Ascending.put label ((Ascending.get? label tally).getD 0 + 1) tally := by
  induction tally with
  | nil => rfl
  | cons entry rest ih =>
      obtain ⟨other, m⟩ := entry
      obtain ⟨hhead, hrest⟩ := List.pairwise_cons.1 h
      rw [add, Ascending.put, Ascending.get?]
      by_cases hlt : label < other
      · have habsent : Ascending.get? label rest = none :=
          Ascending.get?_eq_none_of_forall_lt fun later hlater =>
            String.lt_trans hlt (hhead later hlater)
        rw [if_pos hlt, if_pos hlt, if_neg (String.ne_of_lt hlt), habsent]
        rfl
      · rw [if_neg hlt, if_neg hlt, ih hrest]
        by_cases heq : label = other
        · subst heq
          simp
        · simp only [if_neg heq]

theorem ofLabels_concat (labels : List String) (label : String) :
    ofLabels (labels ++ [label]) = (ofLabels labels).add label := by
  rw [ofLabels, List.foldl_append]
  rfl

theorem pairwise_ofLabels (labels : List String) :
    (ofLabels labels).Pairwise fun a b => a.1 < b.1 := by
  induction labels using List.reverseRecOn with
  | nil => exact .nil
  | append_singleton labels label ih =>
      rw [ofLabels_concat, add_eq_put ih]
      exact Ascending.put_pairwise ih label _

theorem get?_ofLabels (labels : List String) (label : String) :
    Ascending.get? label (ofLabels labels) =
      if label ∈ labels then some (labels.count label) else none := by
  induction labels using List.reverseRecOn with
  | nil => rfl
  | append_singleton labels last ih =>
      rw [ofLabels_concat, add_eq_put (pairwise_ofLabels labels), Ascending.get?_put]
      by_cases hlast : label = last
      · subst hlast
        rw [if_pos rfl, if_pos (by simp), ih, List.count_append, List.count_singleton_self]
        by_cases hmem : label ∈ labels
        · rw [if_pos hmem, Option.getD_some]
        · rw [if_neg hmem, List.count_eq_zero_of_not_mem hmem, Option.getD_none]
      · have hcount : (labels ++ [last]).count label = labels.count label := by
          rw [List.count_append, List.count_singleton, if_neg (by simpa using Ne.symm hlast),
            Nat.add_zero]
        simp [hlast, ih, hcount]

/-- The entries are the labels that occur, with how often they do. -/
theorem mem_ofLabels :
    (label, n) ∈ ofLabels labels ↔ label ∈ labels ∧ labels.count label = n := by
  rw [← Ascending.get?_eq_some_iff (pairwise_ofLabels labels), get?_ofLabels,
    Option.ite_none_right_eq_some, Option.some_inj]

/-- It does not matter in which order labels are counted. -/
theorem ofLabels_eq_of_perm {labels' : List String} (h : labels.Perm labels') :
    ofLabels labels = ofLabels labels' := by
  refine Ascending.eq_of_get?_eq (pairwise_ofLabels labels) (pairwise_ofLabels labels')
    fun label => ?_
  rw [get?_ofLabels, get?_ofLabels, h.count_eq label]
  simp only [h.mem_iff]

theorem top?_eq_none_iff : tally.top? = none ↔ tally = [] := by
  cases tally with
  | nil => simp [top?]
  | cons entry rest =>
      rw [top?]
      split
      · simp
      · split <;> simp

theorem mem_of_top? {entry : String × Nat} (h : tally.top? = some entry) : entry ∈ tally := by
  induction tally generalizing entry with
  | nil => cases h
  | cons head rest ih =>
      rw [top?] at h
      split at h
      · exact Option.some.inj h ▸ List.mem_cons_self
      · rename_i other m hrest
        split at h
        · exact Option.some.inj h ▸ List.mem_cons_of_mem _ (ih hrest)
        · exact Option.some.inj h ▸ List.mem_cons_self

/-- No entry exceeds the top. -/
theorem le_of_top? {entry : String × Nat} (h : tally.top? = some entry) :
    ∀ other ∈ tally, other.2 ≤ entry.2 := by
  induction tally generalizing entry with
  | nil => simp
  | cons head rest ih =>
      obtain ⟨label, n⟩ := head
      rw [top?] at h
      split at h
      · rename_i hrest
        rw [top?_eq_none_iff.1 hrest, ← Option.some.inj h]
        simp
      · rename_i other m hrest
        have hle := ih hrest
        split at h <;> rw [← Option.some.inj h, List.forall_mem_cons]
        · rename_i hlt
          exact ⟨Nat.le_of_lt hlt, hle⟩
        · rename_i hge
          exact ⟨Nat.le_refl _, fun later hlater =>
            Nat.le_trans (hle later hlater) (Nat.not_lt.1 hge)⟩

/-- Of the entries that no other exceeds, the top is the first. -/
theorem lt_of_top? (hascending : tally.Pairwise fun a b => a.1 < b.1) {entry : String × Nat}
    (h : tally.top? = some entry) :
    ∀ other ∈ tally, other.2 = entry.2 → other.1 ≠ entry.1 → entry.1 < other.1 := by
  induction tally generalizing entry with
  | nil => simp
  | cons head rest ih =>
      obtain ⟨hhead, hrest⟩ := List.pairwise_cons.1 hascending
      rw [top?] at h
      split at h
      · rename_i hnone
        obtain rfl := Option.some.inj h
        rw [top?_eq_none_iff.1 hnone]
        simp
      · rename_i hsome
        split at h <;> obtain rfl := Option.some.inj h <;> rw [List.forall_mem_cons]
        · rename_i hlt
          exact ⟨fun heq => absurd heq (Nat.ne_of_lt hlt), ih hrest hsome⟩
        · exact ⟨fun _ hne => absurd rfl hne, fun other hother _ _ => hhead other hother⟩

theorem top?_ofLabels_eq_none_iff : (ofLabels labels).top? = none ↔ labels = [] := by
  rw [top?_eq_none_iff]
  constructor
  · intro h
    refine List.eq_nil_iff_forall_not_mem.2 fun label hlabel => ?_
    have hentry : (label, labels.count label) ∈ ofLabels labels := mem_ofLabels.2 ⟨hlabel, rfl⟩
    exact List.not_mem_nil (h ▸ hentry)
  · intro h
    rw [h]
    rfl

/-- The top is a label that occurs, and no label occurs more often. -/
theorem of_top?_ofLabels (h : (ofLabels labels).top? = some (label, n)) :
    label ∈ labels ∧ labels.count label = n ∧ ∀ other, labels.count other ≤ n := by
  obtain ⟨hlabel, hcount⟩ := mem_ofLabels.1 (mem_of_top? h)
  refine ⟨hlabel, hcount, fun other => ?_⟩
  by_cases hother : other ∈ labels
  · exact le_of_top? h _ (mem_ofLabels.2 ⟨hother, rfl⟩)
  · rw [List.count_eq_zero_of_not_mem hother]
    exact Nat.zero_le n

end Tally

namespace HostsSummary

/-- A host of the cluster carries the infra-env. -/
inductive Carries (cluster infraEnv : Object) : Prop
  | intro {items : List Json} {host : Object}
      (hosts : cluster.get? "hosts" = some (.arr items)) (mem : .obj host ∈ items)
      (carried : host.get? "infra_env" = some (.obj infraEnv)) : Carries cluster infraEnv

/-- The infra-env has a text under the property, which is counted as the label. -/
inductive HasLabel (property : String) (infraEnv : Object) : String → Prop
  | intro {text : String} (counted : infraEnv.get? property = some (.str text)) :
      HasLabel property infraEnv (plainLabel text)

theorem mem_hostsOf {cluster host : Object} :
    host ∈ hostsOf cluster ↔
      ∃ items, cluster.get? "hosts" = some (.arr items) ∧ .obj host ∈ items := by
  simp only [hostsOf, List.mem_filterMap, Json.object?_eq_some_iff, exists_eq_right]
  constructor
  · intro h
    cases hlist : (cluster.get? "hosts").bind Json.items? with
    | none => simp [hlist] at h
    | some items =>
        obtain ⟨v, hv, hitems⟩ := Option.bind_eq_some_iff.1 hlist
        rw [hlist, Option.getD_some] at h
        rw [Json.items?_eq_some_iff.1 hitems] at hv
        exact ⟨items, hv, h⟩
  · rintro ⟨items, hhosts, hmem⟩
    rw [hhosts, Option.bind_some, Json.items?, Option.getD_some]
    exact hmem

theorem mem_infraEnvsOf {hosts : List Object} {infraEnv : Object} :
    infraEnv ∈ infraEnvsOf hosts ↔
      ∃ host ∈ hosts, host.get? "infra_env" = some (.obj infraEnv) := by
  simp only [infraEnvsOf, List.mem_filterMap, Option.bind_eq_some_iff,
    Json.object?_eq_some_iff, exists_eq_right]

theorem mem_infraEnvsOf_hostsOf {cluster infraEnv : Object} :
    infraEnv ∈ infraEnvsOf (hostsOf cluster) ↔ Carries cluster infraEnv := by
  rw [mem_infraEnvsOf]
  constructor
  · rintro ⟨host, hhost, hcarried⟩
    obtain ⟨items, hitems, hmem⟩ := mem_hostsOf.1 hhost
    exact ⟨hitems, hmem, hcarried⟩
  · rintro ⟨hitems, hmem, hcarried⟩
    exact ⟨_, mem_hostsOf.2 ⟨_, hitems, hmem⟩, hcarried⟩

variable {property label : String} {infraEnv : Object} {infraEnvs : List Object}

theorem hasLabel_iff :
    HasLabel property infraEnv label ↔
      ((infraEnv.get? property).bind Json.text?).map plainLabel = some label := by
  constructor
  · rintro ⟨htext⟩
    rw [htext, Option.bind_some, Json.text?, Option.map_some]
  · intro h
    obtain ⟨text, hbind, rfl⟩ := Option.map_eq_some_iff.1 h
    obtain ⟨v, hv, htext⟩ := Option.bind_eq_some_iff.1 hbind
    rw [Json.text?_eq_some_iff.1 htext] at hv
    exact ⟨hv⟩

theorem HasLabel.unique {other : String} (h : HasLabel property infraEnv label)
    (h' : HasLabel property infraEnv other) : label = other :=
  Option.some.inj ((hasLabel_iff.1 h).symm.trans (hasLabel_iff.1 h'))

instance : Decidable (HasLabel property infraEnv label) :=
  decidable_of_iff _ hasLabel_iff.symm

theorem mem_labelsOf :
    label ∈ labelsOf property infraEnvs ↔
      ∃ infraEnv ∈ infraEnvs, HasLabel property infraEnv label := by
  simp only [labelsOf, List.mem_filterMap, hasLabel_iff]

theorem count_labelsOf :
    (labelsOf property infraEnvs).count label =
      infraEnvs.countP fun infraEnv => HasLabel property infraEnv label := by
  rw [labelsOf, List.count_filterMap]
  refine List.countP_congr fun infraEnv _ => ?_
  simp [hasLabel_iff]

theorem count_labelsOf_lt_length_iff :
    (labelsOf property infraEnvs).count label < infraEnvs.length ↔
      ∃ infraEnv ∈ infraEnvs, ¬ HasLabel property infraEnv label := by
  rw [count_labelsOf, List.countP_lt_length_iff]
  simp only [decide_eq_false_iff_not]

end HostsSummary

end ClusterEvents
