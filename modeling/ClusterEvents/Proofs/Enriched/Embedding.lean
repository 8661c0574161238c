import ClusterEvents.Enriched.Assembly
import ClusterEvents.Proofs.Json.Alter
import ClusterEvents.Proofs.Json.Rewrites

/-!
# Hosts and the infra-envs that they name

A host names an infra-env by its identifier, and of several with that identifier it is given the
first. `Embeds` says what becomes of a host: the infra-env stands whole under one key and all
other fields are as before, or nothing is changed at all. The hosts that embedding makes are the
only ones that stand in this relation to the hosts it is given, in their order, and to be given
an infra-env once more changes nothing (`embedInfraEnvs_eq_iff_embeds`).
-/

namespace ClusterEvents.EnrichedEvent

open Members (AgreeExcept)

/-! ## The infra-env that a host names -/

/-- Whether the host has the identifier of the infra-env. -/
def names (host infraEnv : Snapshot) : Bool :=
  (host.get? "infra_env_id").any fun id => (infraEnv.get? "id").any (·.same id)

/-- Of the infra-envs, the one at position `j` is the first that the host names. -/
structure FirstNamed (host : Snapshot) (infraEnvs : List Snapshot) (j : Nat)
    (infraEnv : Snapshot) : Prop where
  place : infraEnvs[j]? = some infraEnv
  named : names host infraEnv = true
  first : ∀ k < j, ∀ other, infraEnvs[k]? = some other → names host other = false

variable {host embedded infraEnv : Snapshot} {infraEnvs : List Snapshot} {j : Nat}

theorem FirstNamed.find? (h : FirstNamed host infraEnvs j infraEnv) :
    infraEnvs.find? (names host) = some infraEnv := by
  obtain ⟨hlt, hget⟩ := List.getElem?_eq_some_iff.1 h.place
  refine List.find?_eq_some_iff_getElem.2 ⟨h.named, j, hlt, hget, fun k hk => ?_⟩
  rw [h.first k hk _ (List.getElem?_eq_getElem (Nat.lt_trans hk hlt))]
  rfl

theorem exists_firstNamed_of_find? (h : infraEnvs.find? (names host) = some infraEnv) :
    ∃ j, FirstNamed host infraEnvs j infraEnv := by
  obtain ⟨hnamed, j, hlt, hget, hfirst⟩ := List.find?_eq_some_iff_getElem.1 h
  refine ⟨j, List.getElem?_eq_some_iff.2 ⟨hlt, hget⟩, hnamed, fun k hk other hother => ?_⟩
  obtain ⟨hk', rfl⟩ := List.getElem?_eq_some_iff.1 hother
  simpa using hfirst k hk

theorem embedInfraEnv_eq (infraEnvs : List Snapshot) (host : Snapshot) :
    embedInfraEnv infraEnvs host =
      ((infraEnvs.find? (names host)).map fun infraEnv =>
        host.insert "infra_env" (.obj infraEnv)).getD host := by
  rw [embedInfraEnv]
  cases hid : host.get? "infra_env_id" with
  | none =>
      have hnames : names host = fun _ => false := by
        funext infraEnv
        rw [names, hid, Option.any_none]
      have hnone : infraEnvs.find? (fun _ => false) = none :=
        List.find?_eq_none.2 fun _ _ => Bool.false_ne_true
      rw [hnames, hnone]
      rfl
  | some id =>
      have hnames : names host = fun infraEnv => (infraEnv.get? "id").any (·.same id) := by
        funext infraEnv
        rw [names, hid, Option.any_some]
      rw [hnames]
      dsimp only
      cases infraEnvs.find? fun infraEnv => (infraEnv.get? "id").any (·.same id) <;> rfl

theorem embedInfraEnv_of_firstNamed (h : FirstNamed host infraEnvs j infraEnv) :
    embedInfraEnv infraEnvs host = host.insert "infra_env" (.obj infraEnv) := by
  rw [embedInfraEnv_eq, h.find?]
  rfl

theorem embedInfraEnv_of_forall (h : ∀ infraEnv ∈ infraEnvs, names host infraEnv = false) :
    embedInfraEnv infraEnvs host = host := by
  have hnone : infraEnvs.find? (names host) = none :=
    List.find?_eq_none.2 fun infraEnv hmem => by simp [h infraEnv hmem]
  rw [embedInfraEnv_eq, hnone]
  rfl

/-! ## What becomes of a host -/

/-- A host with the first infra-env that it names, or as it was when it names none. -/
inductive Embeds (infraEnvs : List Snapshot) (host : Snapshot) : Snapshot → Prop
  | first {embedded infraEnv : Snapshot} {j : Nat} (named : FirstNamed host infraEnvs j infraEnv)
      (placed : embedded.get? "infra_env" = some (.obj infraEnv))
      (kept : AgreeExcept ["infra_env"] embedded host) : Embeds infraEnvs host embedded
  | none (unnamed : ∀ infraEnv ∈ infraEnvs, names host infraEnv = false) :
      Embeds infraEnvs host host

theorem embeds_embedInfraEnv (infraEnvs : List Snapshot) (host : Snapshot) :
    Embeds infraEnvs host (embedInfraEnv infraEnvs host) := by
  cases hfind : infraEnvs.find? (names host) with
  | none =>
      have hunnamed : ∀ infraEnv ∈ infraEnvs, names host infraEnv = false := by
        simpa using List.find?_eq_none.1 hfind
      rw [embedInfraEnv_of_forall hunnamed]
      exact .none hunnamed
  | some infraEnv =>
      obtain ⟨j, hfirst⟩ := exists_firstNamed_of_find? hfind
      rw [embedInfraEnv_of_firstNamed hfirst]
      exact .first hfirst ((Members.get?_insert ..).trans (if_pos rfl))
        (AgreeExcept.insert_left host _ _)

theorem Embeds.eq (h : Embeds infraEnvs host embedded) :
    embedInfraEnv infraEnvs host = embedded := by
  cases h with
  | first hfirst hplaced hkept =>
      rw [embedInfraEnv_of_firstNamed hfirst]
      refine ((AgreeExcept.insert_left host _ _).trans hkept.symm).eq ?_
      rw [Members.get?_insert, if_pos rfl, hplaced]
  | none hunnamed => exact embedInfraEnv_of_forall hunnamed

theorem embedInfraEnv_eq_iff : embedInfraEnv infraEnvs host = embedded ↔
    Embeds infraEnvs host embedded :=
  ⟨fun h => h ▸ embeds_embedInfraEnv infraEnvs host, Embeds.eq⟩

/-- The infra-env that a host names is not looked up in the infra-env that it has. -/
theorem names_of_agreeExcept (h : AgreeExcept ["infra_env"] embedded host) :
    names embedded = names host := by
  funext infraEnv
  rw [names, names, h "infra_env_id" (by decide)]

theorem Embeds.embeds_self (h : Embeds infraEnvs host embedded) :
    Embeds infraEnvs embedded embedded := by
  cases h with
  | first hfirst hplaced hkept =>
      have hnames := names_of_agreeExcept hkept
      refine .first ⟨hfirst.place, ?_, ?_⟩ hplaced fun _ _ => rfl
      · rw [hnames]
        exact hfirst.named
      · rw [hnames]
        exact hfirst.first
  | none hunnamed => exact .none hunnamed

/-! ## All hosts -/

/-- Embedding makes of each host what `Embeds` says and nothing else, and to embed twice is to
embed once. -/
theorem embedInfraEnvs_eq_iff_embeds (hosts infraEnvs : List Snapshot) :
    (∀ embedded, embedInfraEnvs hosts infraEnvs = embedded ↔
      List.Forall₂ (Embeds infraEnvs) hosts embedded) ∧
    (embedInfraEnvs hosts infraEnvs).length = hosts.length ∧
    embedInfraEnvs (embedInfraEnvs hosts infraEnvs) infraEnvs =
      embedInfraEnvs hosts infraEnvs := by
  refine ⟨fun embedded => ?_, List.length_map .., ?_⟩
  · exact (Json.forall₂_iff_map_eq fun _ _ => embedInfraEnv_eq_iff).symm
  · rw [embedInfraEnvs, embedInfraEnvs, List.map_map]
    refine List.map_congr_left fun host _ => ?_
    exact (embeds_embedInfraEnv infraEnvs host).embeds_self.eq

end ClusterEvents.EnrichedEvent
