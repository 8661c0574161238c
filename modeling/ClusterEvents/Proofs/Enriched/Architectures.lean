import ClusterEvents.Proofs.Enriched.Tallies

/-!
# When architectures count as mixed

The count of the most common architecture is compared with the number of all infra-envs,
also of those that tell no architecture. So architectures count as mixed when there are two
of them (`IsMixed`), and also when there is one only and some infra-env has none
(`IsPartlyLabelled`). The two exclude each other, so the flag means the former exactly when
the latter is not the case (`hasHeterogeneousArchitecture_eq_true_iff`).
-/

namespace ClusterEvents.HostsSummary

variable {cluster : Object} {label : String}

/-- Some host is of the architecture, as its infra-env tells. -/
def HasArchitecture (cluster : Object) (label : String) : Prop :=
  ∃ infraEnv, Carries cluster infraEnv ∧ HasLabel "cpu_architecture" infraEnv label

/-- Hosts span more than one architecture. -/
def IsMixed (cluster : Object) : Prop :=
  ∃ one other, HasArchitecture cluster one ∧ HasArchitecture cluster other ∧ one ≠ other

/-- There is just one architecture, and an infra-env that tells none. -/
def IsPartlyLabelled (cluster : Object) : Prop :=
  (∃ label, ∀ other, HasArchitecture cluster other ↔ other = label) ∧
    ∃ infraEnv, Carries cluster infraEnv ∧
      ∀ label, ¬ HasLabel "cpu_architecture" infraEnv label

theorem hasArchitecture_iff :
    HasArchitecture cluster label ↔
      label ∈ labelsOf "cpu_architecture" (infraEnvsOf (hostsOf cluster)) := by
  simp only [HasArchitecture, mem_labelsOf, mem_infraEnvsOf_hostsOf]

/-- An architecture is that of an infra-env that has no other. -/
theorem HasArchitecture.exists_not {other : String} (h : HasArchitecture cluster other)
    (hne : other ≠ label) :
    ∃ infraEnv, Carries cluster infraEnv ∧ ¬ HasLabel "cpu_architecture" infraEnv label := by
  obtain ⟨infraEnv, hcarries, hother⟩ := h
  exact ⟨infraEnv, hcarries, fun hlabel => hne (hother.unique hlabel)⟩

/-- The flag is set when there is an architecture and none is that of all infra-envs. -/
theorem hasHeterogeneousArchitecture_iff_forall :
    (ofCluster cluster).hasHeterogeneousArchitecture = true ↔
      (∃ label, HasArchitecture cluster label) ∧
        ∀ label, ∃ infraEnv, Carries cluster infraEnv ∧
          ¬ HasLabel "cpu_architecture" infraEnv label := by
  simp only [hasArchitecture_iff, ← mem_infraEnvsOf_hostsOf, ← count_labelsOf_lt_length_iff,
    ofCluster, tally]
  generalize labelsOf "cpu_architecture" (infraEnvsOf (hostsOf cluster)) = labels
  generalize (infraEnvsOf (hostsOf cluster)).length = total
  cases htop : (Tally.ofLabels labels).top? with
  | none => simp [Tally.top?_ofLabels_eq_none_iff.1 htop]
  | some entry =>
      obtain ⟨top, n⟩ := entry
      obtain ⟨hmem, hcount, hle⟩ := Tally.of_top?_ofLabels htop
      rw [decide_eq_true_eq]
      constructor
      · intro hlt
        exact ⟨⟨top, hmem⟩, fun label => Nat.lt_of_le_of_lt (hle label) hlt⟩
      · rintro ⟨-, hlt⟩
        exact hcount ▸ hlt top

theorem IsMixed.not_isPartlyLabelled (h : IsMixed cluster) : ¬ IsPartlyLabelled cluster := by
  rintro ⟨⟨label, hall⟩, -⟩
  obtain ⟨one, other, hone, hother, hne⟩ := h
  exact hne (((hall one).1 hone).trans ((hall other).1 hother).symm)

theorem hasHeterogeneousArchitecture_iff_or :
    (ofCluster cluster).hasHeterogeneousArchitecture = true ↔
      IsMixed cluster ∨ IsPartlyLabelled cluster := by
  rw [hasHeterogeneousArchitecture_iff_forall]
  constructor
  · rintro ⟨⟨label, hlabel⟩, hall⟩
    by_cases hmixed : IsMixed cluster
    · exact .inl hmixed
    · have honly : ∀ other, HasArchitecture cluster other ↔ other = label := by
        refine fun other => ⟨fun hother => ?_, fun heq => heq ▸ hlabel⟩
        by_contra hne
        exact hmixed ⟨other, label, hother, hlabel, hne⟩
      obtain ⟨infraEnv, hcarries, hother⟩ := hall label
      refine .inr ⟨⟨label, honly⟩, infraEnv, hcarries, fun other hlabel => ?_⟩
      exact hother ((honly other).1 ⟨infraEnv, hcarries, hlabel⟩ ▸ hlabel)
  · rintro (⟨one, other, hone, hother, hne⟩ | ⟨⟨label, honly⟩, infraEnv, hcarries, hnone⟩)
    · refine ⟨⟨one, hone⟩, fun label => ?_⟩
      by_cases hlabel : one = label
      · exact hother.exists_not fun heq => hne (hlabel.trans heq.symm)
      · exact hone.exists_not hlabel
    · exact ⟨⟨label, (honly label).2 rfl⟩, fun label => ⟨infraEnv, hcarries, hnone label⟩⟩

/-- Architectures count as mixed when there are two or when one is not told throughout, so
exactly where the latter is not the case the flag means the former. -/
theorem hasHeterogeneousArchitecture_eq_true_iff (cluster : Object) :
    ((ofCluster cluster).hasHeterogeneousArchitecture = true ↔
        IsMixed cluster ∨ IsPartlyLabelled cluster) ∧
      (((ofCluster cluster).hasHeterogeneousArchitecture = true ↔ IsMixed cluster) ↔
        ¬ IsPartlyLabelled cluster) := by
  refine ⟨hasHeterogeneousArchitecture_iff_or, ?_⟩
  rw [hasHeterogeneousArchitecture_iff_or]
  constructor
  · intro h hpartly
    exact (h.1 (.inr hpartly)).not_isPartlyLabelled hpartly
  · intro h
    exact or_iff_left h

/-- A cluster of two hosts, one of which tells its architecture. -/
def twoHosts : Object :=
  let hostOf (infraEnv : Object) : Json := .obj (Object.ofList [("infra_env", .obj infraEnv)])
  Object.ofList [("hosts", .arr
    [hostOf (Object.ofList [("cpu_architecture", .str "x86_64")]), hostOf Object.empty])]

theorem hasHeterogeneousArchitecture_without_mixture :
    ¬ ∀ cluster, (ofCluster cluster).hasHeterogeneousArchitecture = true ↔ IsMixed cluster := by
  intro hall
  obtain ⟨one, other, hone, hother, hne⟩ := (hall twoHosts).1 rfl
  have hlabels : labelsOf "cpu_architecture" (infraEnvsOf (hostsOf twoHosts)) = ["x86_64"] := rfl
  rw [hasArchitecture_iff, hlabels, List.mem_singleton] at hone hother
  exact hne (hone.trans hother.symm)

end ClusterEvents.HostsSummary
