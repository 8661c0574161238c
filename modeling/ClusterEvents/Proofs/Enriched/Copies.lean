import ClusterEvents.Proofs.Enriched.Embedding
import ClusterEvents.Proofs.Enriched.Pseudonyms
import ClusterEvents.Proofs.Enriched.Tidiness

/-!
# The two copies of an infra-env

A document has an infra-env twice: in the list of all infra-envs, and in each host that names
it before every other one. The standard rules delete the same secrets from both copies, and hide
the user's name in the hosts' copies only. So a host's copy is the listed one with the name hidden,
and the two are equal exactly when the infra-env has no name to hide: `embedded_eq_hideUser_listed`.
-/

namespace ClusterEvents.EnrichedEvent

open FieldRules
open Members (AgreeExcept)

/-- The infra-env of a host, before any rule is run. -/
theorem infraEnv_base (event : Event) (cluster : Snapshot) {hosts infraEnvs : List Snapshot}
    {i j : Nat} {host infraEnv : Snapshot} (hhost : hosts[i]? = some host)
    (hfirst : FirstNamed host infraEnvs j infraEnv) :
    (Place.infraEnv i).object? (base event cluster hosts infraEnvs).cluster = some infraEnv := by
  have hitem : ((embedInfraEnvs hosts infraEnvs).map Json.obj)[i]? =
      some (.obj (host.insert "infra_env" (.obj infraEnv))) := by
    rw [embedInfraEnvs, List.getElem?_map, List.getElem?_map, hhost, Option.map_some,
      Option.map_some, embedInfraEnv_of_firstNamed hfirst]
  rw [Place.object?, hostAt?, hosts_base, Option.bind_some, Json.items?, Option.bind_some, hitem,
    Option.bind_some, Json.object?, Option.bind_some, Members.get?_insert, if_pos rfl,
    Option.bind_some, Json.object?]

/-! ## Hiding names and deleting secrets -/

theorem agreeExcept_hideUser (o : Object) :
    AgreeExcept ["user_name", "user_id"] (hideUser o) o := by
  intro key hkey
  simp only [List.mem_cons, List.not_mem_nil, or_false, not_or] at hkey
  exact (spares_hideUser hkey.1 hkey.2).get? o

/-- Hiding changes an object exactly when there is a name to hide. -/
theorem hideUser_eq_self_iff (o : Object) : hideUser o = o ↔ o.get? "user_name" = none := by
  constructor
  · intro h
    rw [← h]
    exact get?_hideUser_userName o
  · exact hideUser_eq_self

/-- Secrets may be deleted before the name is hidden as well. -/
theorem tidyInfraEnv_eq (infraEnv : Object) :
    tidyInfraEnv infraEnv = hideUser (eraseAll infraEnvSecrets infraEnv) := by
  have hagree : AgreeExcept infraEnvSecrets (eraseAll infraEnvSecrets infraEnv) infraEnv := by
    intro key hkey
    rw [get?_eraseAll, if_neg hkey]
  have hnone (key : String) (hkey : key ∈ infraEnvSecrets) :
      (hideUser (eraseAll infraEnvSecrets infraEnv)).get? key = none := by
    obtain rfl := List.mem_singleton.1 hkey
    rw [(spares_hideUser (by decide) (by decide)).get?, get?_eraseAll, if_pos hkey]
  rw [tidyInfraEnv, ← eraseAll_eq (agree_hideUser hagree (by decide)), eraseAll_eq_self hnone]

/-! ## Both copies -/

/-- A host's copy of an infra-env is the listed one with the user's name hidden. Neither has a
secret, and they are equal exactly when the infra-env has no name of a user. -/
theorem embedded_eq_hideUser_listed (event : Event) (cluster : Snapshot)
    {hosts infraEnvs : List Snapshot} {i j : Nat} {host infraEnv : Snapshot}
    (hhost : hosts[i]? = some host) (hfirst : FirstNamed host infraEnvs j infraEnv) :
    ∃ embedded listed,
      (Place.infraEnv i).object? (enrich .standard event cluster hosts infraEnvs).cluster =
        some embedded ∧
      (enrich .standard event cluster hosts infraEnvs).infraEnvs[j]? = some (.obj listed) ∧
      embedded = hideUser listed ∧
      AgreeExcept ["user_name", "user_id"] embedded listed ∧
      (∀ key ∈ infraEnvSecrets, embedded.get? key = none ∧ listed.get? key = none) ∧
      (embedded = listed ↔ infraEnv.get? "user_name" = none) := by
  have hname : (eraseAll infraEnvSecrets infraEnv).get? "user_name" =
      infraEnv.get? "user_name" := (spares_eraseAll (by decide)).get? infraEnv
  refine ⟨hideUser (eraseAll infraEnvSecrets infraEnv), eraseAll infraEnvSecrets infraEnv,
    ?_, ?_, rfl, agreeExcept_hideUser _, ?_, ?_⟩
  · rw [object?_enrich, infraEnv_base event cluster hhost hfirst, Option.map_some, Place.tidy,
      tidyInfraEnv_eq]
  · rw [enrich_standard]
    simp only [summarised, List.getElem?_map, hfirst.place, Option.map_some]
  · intro key hkey
    have hlisted : (eraseAll infraEnvSecrets infraEnv).get? key = none := by
      rw [get?_eraseAll, if_pos hkey]
    obtain rfl := List.mem_singleton.1 hkey
    rw [(spares_hideUser (by decide) (by decide)).get?]
    exact ⟨hlisted, hlisted⟩
  · rw [hideUser_eq_self_iff, hname]

/-- Two infra-envs with the identifier that the second host names. -/
theorem embedded_eq_hideUser_listed_second :
    ∃ embedded listed,
      (Place.infraEnv 1).object? (enrich .standard ⟨"Event", .null, .empty⟩ .empty
          [Object.ofList [("id", .str "g")],
            Object.ofList [("id", .str "h"), ("infra_env_id", .str "i")]]
          [Object.ofList [("id", .str "k")],
            Object.ofList [("id", .str "i"), ("user_name", .str "jdoe"),
              ("ssh_authorized_key", .str "s")],
            Object.ofList [("id", .str "i"), ("type", .str "full-iso")]]).cluster =
        some embedded ∧
      (enrich .standard ⟨"Event", .null, .empty⟩ .empty
          [Object.ofList [("id", .str "g")],
            Object.ofList [("id", .str "h"), ("infra_env_id", .str "i")]]
          [Object.ofList [("id", .str "k")],
            Object.ofList [("id", .str "i"), ("user_name", .str "jdoe"),
              ("ssh_authorized_key", .str "s")],
            Object.ofList [("id", .str "i"), ("type", .str "full-iso")]]).infraEnvs[1]? =
        some (.obj listed) ∧
      embedded = hideUser listed ∧
      AgreeExcept ["user_name", "user_id"] embedded listed ∧
      (∀ key ∈ infraEnvSecrets, embedded.get? key = none ∧ listed.get? key = none) ∧
      (embedded = listed ↔ (Object.ofList [("id", .str "i"), ("user_name", .str "jdoe"),
        ("ssh_authorized_key", .str "s")]).get? "user_name" = none) := by
  refine embedded_eq_hideUser_listed _ _ rfl ⟨rfl, by decide +kernel, fun k hk other hother => ?_⟩
  obtain rfl : k = 0 := by omega
  cases hother
  decide +kernel

/-- The name of an infra-env's user is hidden in one copy, and in the other it is not. -/
theorem copies_differ :
    ¬ ∀ (event : Event) (cluster : Snapshot) (hosts infraEnvs : List Snapshot) (i j : Nat)
      (host infraEnv : Snapshot), hosts[i]? = some host →
      FirstNamed host infraEnvs j infraEnv →
      ((Place.infraEnv i).object? (enrich .standard event cluster hosts infraEnvs).cluster).map
          Json.obj =
        (enrich .standard event cluster hosts infraEnvs).infraEnvs[j]? := by
  intro hall
  have hfirst : FirstNamed (Object.ofList [("infra_env_id", .str "i")])
      [Object.ofList [("id", .str "i"), ("user_name", .str "jdoe")]] 0
      (Object.ofList [("id", .str "i"), ("user_name", .str "jdoe")]) :=
    ⟨rfl, by decide +kernel, fun _ hk => absurd hk (Nat.not_lt_zero _)⟩
  have hhost : [Object.ofList [("infra_env_id", .str "i")]][0]? =
      some (Object.ofList [("infra_env_id", .str "i")]) := rfl
  have hequal := hall ⟨"Event", .null, .empty⟩ .empty _ _ 0 0 _ _ hhost hfirst
  rw [object?_enrich, infraEnv_base _ _ hhost hfirst, enrich_standard] at hequal
  simp only [summarised, List.map_cons, List.getElem?_cons_zero, Option.map_some,
    Option.some.injEq, Json.obj.injEq, Place.tidy] at hequal
  have hname := get?_hideUser_userName (eraseAll infraEnvSecrets
    (Object.ofList [("id", .str "i"), ("user_name", .str "jdoe")]))
  rw [← tidyInfraEnv_eq, hequal] at hname
  cases hname

end ClusterEvents.EnrichedEvent
