import ClusterEvents.Proofs.Enriched.Documents

/-!
# Documents under any rules

Whatever the rules are, what is known of a cluster reaches a document only through them:
activities whose documents are made equal by the rules are stored alike, and where the rules
leave no document at all, what is stored tells of the event alone. Rules that change nothing
leave the base document as it is, with the summary of its hosts added, since a document that
is written as a value is read back from it.
-/

namespace ClusterEvents.EnrichedEvent

/-- The document of an event of which nothing else is known. -/
def ofEventAlone (event : Event) : EnrichedEvent :=
  (base event Object.empty [] []).withoutSnapshots.summarised

variable {rules : FieldRules} {event : Event} {cluster cluster' : Snapshot}
  {hosts hosts' infraEnvs infraEnvs' : List Snapshot}

theorem transformed_of_ofJson?_eq_none {e : EnrichedEvent}
    (h : ofJson? (rules.apply e.toJson) = none) : e.transformed rules = e.withoutSnapshots := by
  rw [transformed, h]

theorem transformed_of_ofJson?_eq_some {e document : EnrichedEvent}
    (h : ofJson? (rules.apply e.toJson) = some document) : e.transformed rules = document := by
  rw [transformed, h]

/-- Base documents of one event differ in what is known of its cluster. -/
theorem withoutSnapshots_base (event : Event) (cluster cluster' : Snapshot)
    (hosts hosts' infraEnvs infraEnvs' : List Snapshot) :
    (base event cluster hosts infraEnvs).withoutSnapshots =
      (base event cluster' hosts' infraEnvs').withoutSnapshots := rfl

theorem enrich_of_ofJson?_eq_none
    (h : ofJson? (rules.apply (base event cluster hosts infraEnvs).toJson) = none) :
    enrich rules event cluster hosts infraEnvs = ofEventAlone event := by
  rw [enrich, transformed_of_ofJson?_eq_none h, ofEventAlone,
    withoutSnapshots_base event cluster Object.empty hosts [] infraEnvs []]

theorem enrich_eq_of_apply_eq
    (h : rules.apply (base event cluster hosts infraEnvs).toJson =
      rules.apply (base event cluster' hosts' infraEnvs').toJson) :
    enrich rules event cluster hosts infraEnvs =
      enrich rules event cluster' hosts' infraEnvs' := by
  cases hread : ofJson? (rules.apply (base event cluster hosts infraEnvs).toJson) with
  | none =>
      have hread' := h ▸ hread
      rw [enrich_of_ofJson?_eq_none hread, enrich_of_ofJson?_eq_none hread']
  | some document =>
      have hread' := h ▸ hread
      rw [enrich, enrich, transformed_of_ofJson?_eq_some hread,
        transformed_of_ofJson?_eq_some hread']

/-- Nothing that is known of a cluster gets round the rules. Where they make the base
documents of an event equal, the stored documents are equal; and where they leave no
document, the stored one has nothing of the cluster and is made of the event alone. -/
theorem snapshots_pass_rules (rules : FieldRules) (event : Event)
    (cluster cluster' : Snapshot) (hosts hosts' infraEnvs infraEnvs' : List Snapshot)
    (h : rules.apply (base event cluster hosts infraEnvs).toJson =
      rules.apply (base event cluster' hosts' infraEnvs').toJson) :
    enrich rules event cluster hosts infraEnvs = enrich rules event cluster' hosts' infraEnvs' ∧
      (ofJson? (rules.apply (base event cluster hosts infraEnvs).toJson) = none →
        enrich rules event cluster hosts infraEnvs = ofEventAlone event ∧
          (enrich rules event cluster hosts infraEnvs).cluster = Object.empty ∧
          (enrich rules event cluster hosts infraEnvs).infraEnvs = []) := by
  refine ⟨enrich_eq_of_apply_eq h, fun hread => ?_⟩
  rw [enrich_of_ofJson?_eq_none hread]
  exact ⟨rfl, rfl, rfl⟩

/-- Two clusters whose values are listed without their keys, so that no document is left. -/
theorem snapshots_pass_listing :
    let rules : FieldRules := ⟨[], ["cluster"], [], [], []⟩
    let event : Event := ⟨"Event", .obj (Object.ofList [("message", .str "ready")]), .empty⟩
    let cluster := Object.ofList [("id", .str "c")]
    let cluster' := Object.ofList [("href", .str "c")]
    ofJson? (rules.apply (base event cluster [] []).toJson) = none ∧
      enrich rules event cluster [] [] = enrich rules event cluster' [] [] ∧
      (enrich rules event cluster [] []).cluster = Object.empty := by
  intro rules event cluster cluster'
  have hread : ofJson? (rules.apply (base event cluster [] []).toJson) = none := by
    decide +kernel
  have hequal : rules.apply (base event cluster [] []).toJson =
      rules.apply (base event cluster' [] []).toJson := by
    decide +kernel
  obtain ⟨heq, halone⟩ := snapshots_pass_rules rules event cluster cluster' [] [] [] [] hequal
  exact ⟨hread, heq, (halone hread).2.1⟩

/-! ## Rules that change nothing -/

theorem enrich_of_apply_eq_self
    (h : rules.apply (base event cluster hosts infraEnvs).toJson =
      (base event cluster hosts infraEnvs).toJson) :
    enrich rules event cluster hosts infraEnvs =
      (base event cluster hosts infraEnvs).summarised := by
  have hread : ofJson? (rules.apply (base event cluster hosts infraEnvs).toJson) =
      some (base event cluster hosts infraEnvs) := by
    rw [h]
    exact ofJson?_toJson rfl
  rw [enrich, transformed_of_ofJson?_eq_some hread]

theorem apply_without_paths (tree : Json) : FieldRules.apply ⟨[], [], [], [], []⟩ tree = tree :=
  rfl

/-- A base document that is written as a value is read back without loss. So rules that
leave this value as it is, as those without any path do, leave the base document as it is,
and only the summary of its hosts is added. -/
theorem base_document_untouched (event : Event) (cluster : Snapshot)
    (hosts infraEnvs : List Snapshot) :
    ofJson? (base event cluster hosts infraEnvs).toJson =
        some (base event cluster hosts infraEnvs) ∧
      (∀ rules : FieldRules, rules.apply (base event cluster hosts infraEnvs).toJson =
          (base event cluster hosts infraEnvs).toJson →
        enrich rules event cluster hosts infraEnvs =
          { base event cluster hosts infraEnvs with
            hostsSummary :=
              some (HostsSummary.ofCluster (base event cluster hosts infraEnvs).cluster) }) ∧
      FieldRules.apply ⟨[], [], [], [], []⟩ (base event cluster hosts infraEnvs).toJson =
        (base event cluster hosts infraEnvs).toJson :=
  ⟨ofJson?_toJson rfl, fun _ h => enrich_of_apply_eq_self h, apply_without_paths _⟩

/-- Rules for every stage, none of which finds what it looks for in a cluster with one host. -/
theorem base_document_out_of_reach :
    let rules : FieldRules := ⟨["cluster.name"], ["cluster.usage"], ["cluster.hosts[*].disks"],
      [("cluster.user", "cluster.user_id")], ["cluster.hosts[*].secret"]⟩
    let event : Event := ⟨"Event", .null,
      Object.ofList [("versions", .obj Object.empty), ("release_tag", .str "")]⟩
    let cluster := Object.ofList [("name", .str "plain")]
    let hosts := [Object.ofList [("infra_env_id", .str "i")]]
    let infraEnvs := [Object.ofList [("id", .str "i")]]
    enrich rules event cluster hosts infraEnvs =
      { base event cluster hosts infraEnvs with
        hostsSummary :=
          some (HostsSummary.ofCluster (base event cluster hosts infraEnvs).cluster) } := by
  intro rules event cluster hosts infraEnvs
  have hsame : rules.apply (base event cluster hosts infraEnvs).toJson =
      (base event cluster hosts infraEnvs).toJson := by
    decide +kernel
  exact (base_document_untouched event cluster hosts infraEnvs).2.1 rules hsame

end ClusterEvents.EnrichedEvent
