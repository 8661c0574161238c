import Mathlib.Data.List.Forall2
import ClusterEvents.Proofs.Enriched.Documents
import ClusterEvents.Proofs.Enriched.Embedding

/-!
# Secrets do not show

Two runs of the standard rules whose inputs differ in secrets only end in the same
document. Embedding an infra-env copies its secret into every host that names it, so
hosts are compared by `HostsAgree`, which leaves out secrets one level further down;
embedding keeps this relation and tidying turns it into equality.
-/

namespace ClusterEvents.EnrichedEvent

open Members (AgreeExcept)
open FieldRules

/-- What two hosts have for an infra-env is the same, except for secrets. -/
inductive InfraEnvsAgree : Option Json → Option Json → Prop
  | same (v : Option Json) : InfraEnvsAgree v v
  | objects {infraEnv infraEnv' : Object} (h : AgreeExcept infraEnvSecrets infraEnv infraEnv') :
      InfraEnvsAgree (some (.obj infraEnv)) (some (.obj infraEnv'))

/-- The hosts are the same, except for secrets of their infra-envs. -/
structure HostsAgree (host host' : Object) : Prop where
  fields : AgreeExcept ["infra_env"] host host'
  infraEnv : InfraEnvsAgree (host.get? "infra_env") (host'.get? "infra_env")

/-! ## Tidying -/

theorem tidyInfraEnv_eq_of_agree {infraEnv infraEnv' : Object}
    (h : AgreeExcept infraEnvSecrets infraEnv infraEnv') :
    tidyInfraEnv infraEnv = tidyInfraEnv infraEnv' :=
  eraseAll_eq (agree_hideUser h (by decide))

theorem InfraEnvsAgree.tidy_eq {v v' : Option Json} (h : InfraEnvsAgree v v') :
    v.map (Json.onObject tidyInfraEnv) = v'.map (Json.onObject tidyInfraEnv) := by
  cases h with
  | same => rfl
  | objects h => simp [tidyInfraEnv_eq_of_agree h]

theorem tidyHost_eq_of_agree {host host' : Object} (h : HostsAgree host host') :
    tidyHost host = tidyHost host' := by
  have hfields : Members.Spares "infra_env" tidyHostFields :=
    spares_tidyHostFields (by decide) (by decide) (by decide)
  apply AgreeExcept.eq ((hfields.agree h.fields).alter "infra_env" _)
  exact (get?_infraEnv_tidyHost host).trans
    (h.infraEnv.tidy_eq.trans (get?_infraEnv_tidyHost host').symm)

theorem tidyClusterFields_eq_of_agree {cluster cluster' : Object}
    (h : AgreeExcept clusterSecrets cluster cluster') :
    tidyClusterFields cluster = tidyClusterFields cluster' := by
  have hlisted := ((agree_alterAll h Json.unpack clusterTexts).alter "feature_usage"
    (Json.rewritten valuesOf)).alter "connectivity_majority_groups" (Json.rewritten entriesOf)
  exact eraseAll_eq (agree_hideUser hlisted (by decide))

/-! ## Embedding -/

theorem find?_rel {α : Type} {R : α → α → Prop} {p : α → Bool}
    (hp : ∀ a b, R a b → p a = p b) {l l' : List α} (h : List.Forall₂ R l l') :
    Option.Rel R (l.find? p) (l'.find? p) := by
  induction h with
  | nil => exact .none
  | @cons a b l l' hab _ ih =>
      rw [List.find?_cons, List.find?_cons, hp a b hab]
      cases p b with
      | true => exact .some hab
      | false => exact ih

/-- A host with an infra-env put in place of its own, in two runs. -/
theorem HostsAgree.insert {host host' infraEnv infraEnv' : Object} (h : HostsAgree host host')
    (hinfraEnv : AgreeExcept infraEnvSecrets infraEnv infraEnv') :
    HostsAgree (host.insert "infra_env" (.obj infraEnv))
      (host'.insert "infra_env" (.obj infraEnv')) where
  fields :=
    ((AgreeExcept.insert_left host _ _).trans h.fields).trans
      (AgreeExcept.insert_left host' _ _).symm
  infraEnv := by
    simp only [Members.get?_insert, if_true]
    exact .objects hinfraEnv

/-- Which infra-env a host names does not depend on secrets. -/
theorem HostsAgree.embed {host host' : Object} {infraEnvs infraEnvs' : List Object}
    (h : HostsAgree host host')
    (hinfraEnvs : List.Forall₂ (AgreeExcept infraEnvSecrets) infraEnvs infraEnvs') :
    HostsAgree (embedInfraEnv infraEnvs host) (embedInfraEnv infraEnvs' host') := by
  have hfound := find?_rel (p := names host')
    (fun infraEnv infraEnv' hagree => by rw [names, names, hagree "id" (by decide)]) hinfraEnvs
  rw [embedInfraEnv_eq, embedInfraEnv_eq, names_of_agreeExcept h.fields]
  generalize infraEnvs.find? _ = found, infraEnvs'.find? _ = found' at hfound
  cases hfound with
  | none => exact h
  | some hagree => exact h.insert hagree

theorem tidy_embedded_eq {hosts hosts' infraEnvs infraEnvs' : List Object}
    (hhosts : List.Forall₂ HostsAgree hosts hosts')
    (hinfraEnvs : List.Forall₂ (AgreeExcept infraEnvSecrets) infraEnvs infraEnvs') :
    (embedInfraEnvs hosts infraEnvs).map (fun host => Json.obj (tidyHost host)) =
      (embedInfraEnvs hosts' infraEnvs').map fun host => Json.obj (tidyHost host) := by
  induction hhosts with
  | nil => rfl
  | cons hagree _ ih =>
      simp only [embedInfraEnvs, List.map_cons] at ih ⊢
      rw [ih, tidyHost_eq_of_agree (hagree.embed hinfraEnvs)]

/-! ## Enriching -/

/-- Secrets of a cluster, of infra-envs and of the infra-envs of hosts leave no trace in
the document that an activity becomes under the standard rules. -/
theorem enrich_eq_of_agree (event : Event) {cluster cluster' : Snapshot}
    {hosts hosts' infraEnvs infraEnvs' : List Snapshot}
    (hcluster : AgreeExcept clusterSecrets cluster cluster')
    (hhosts : List.Forall₂ HostsAgree hosts hosts')
    (hinfraEnvs : List.Forall₂ (AgreeExcept infraEnvSecrets) infraEnvs infraEnvs') :
    enrich .standard event cluster hosts infraEnvs =
      enrich .standard event cluster' hosts' infraEnvs' := by
  have hredacted : infraEnvs.map (fun infraEnv => Json.obj (eraseAll infraEnvSecrets infraEnv)) =
      infraEnvs'.map fun infraEnv => Json.obj (eraseAll infraEnvSecrets infraEnv) := by
    induction hinfraEnvs with
    | nil => rfl
    | cons hagree _ ih => rw [List.map_cons, List.map_cons, ih, eraseAll_eq hagree]
  rw [enrich_standard, enrich_standard, tidyClusterFields_eq_of_agree hcluster,
    tidy_embedded_eq hhosts hinfraEnvs, hredacted]
  rfl

/-- A cluster, a host with an infra-env of its own that names another, and that other one:
with secrets everywhere, and without. -/
theorem enrich_without_secrets :
    enrich .standard ⟨"Event", .obj (Object.ofList [("message", .str "ready")]), .empty⟩
        (Object.ofList [("id", .str "c"), ("pull_secret", .str "p"), ("ssh_public_key", .str "s")])
        [Object.ofList [("id", .str "h"), ("infra_env_id", .str "i"),
          ("infra_env", .obj (Object.ofList [("ssh_authorized_key", .str "old")]))]]
        [Object.ofList [("id", .str "i"), ("ssh_authorized_key", .str "new")]] =
      enrich .standard ⟨"Event", .obj (Object.ofList [("message", .str "ready")]), .empty⟩
        (Object.ofList [("id", .str "c")])
        [Object.ofList [("id", .str "h"), ("infra_env_id", .str "i"),
          ("infra_env", .obj Object.empty)]]
        [Object.ofList [("id", .str "i")]] := by
  apply enrich_eq_of_agree
  · intro key hkey
    simp only [clusterSecrets, List.mem_cons, not_or] at hkey
    simp [Object.get?_ofList_cons, Object.get?_ofList_nil, hkey]
  · refine .cons ⟨fun key hkey => ?_, ?_⟩ .nil
    · simp only [List.mem_cons, not_or] at hkey
      simp [Object.get?_ofList_cons, Object.get?_ofList_nil, hkey]
    · refine .objects fun key hkey => ?_
      simp only [infraEnvSecrets, List.mem_cons, not_or] at hkey
      simp [Object.get?_ofList_cons, Object.get?_ofList_nil, hkey, Object.empty]
  · refine .cons (fun key hkey => ?_) .nil
    simp only [infraEnvSecrets, List.mem_cons, not_or] at hkey
    simp [Object.get?_ofList_cons, Object.get?_ofList_nil, hkey]

end ClusterEvents.EnrichedEvent
