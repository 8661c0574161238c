import ClusterEvents.Proofs.Json.Alter
import ClusterEvents.Enriched.Rules

/-!
# What the standard rules do

The standard rules treat the cluster of a document, each of its hosts and the infra-env
of each host by themselves. `tidyCluster`, `tidyHost` and `tidyInfraEnv` say what becomes of
each of them, and `apply_standard` that the stages together do just this, to whatever
value they are run on, and delete one key from the infra-envs of the document besides.

A user's name is dealt with in the same way in all three: `pseudonym` takes its place,
under another key.

Every stage changes a cluster by itself and then its hosts, and a host by itself and then
its infra-env. Such changes compose part by part, by `withHosts_withHosts` and
`withInfraEnv_withInfraEnv`, because what a stage does to a cluster by itself spares its
hosts, and what it does to a host by itself spares its infra-env.
-/

namespace ClusterEvents.FieldRules

open Json (alter alterChild alterItems onObject relocate rewritten Target)
open Members (AgreeExcept Spares)

/-! ## The parts of a document -/

/-- A change of a host by itself, and of its infra-env. -/
def withInfraEnv (own infraEnv : Object → Object) (host : Object) : Object :=
  (own host).alter "infra_env" (onObject infraEnv)

/-- A change of a cluster by itself, and of each of its hosts. -/
def withHosts (own host : Object → Object) (cluster : Object) : Object :=
  (own cluster).alter "hosts" (alterItems (onObject host))

section

variable {own own' : Object → Object}

theorem withInfraEnv_withInfraEnv (h : Spares "infra_env" own) (f g : Object → Object)
    (host : Object) :
    withInfraEnv own f (withInfraEnv own' g host) =
      withInfraEnv (fun host => own (own' host)) (fun infraEnv => f (g infraEnv)) host := by
  rw [withInfraEnv, withInfraEnv, h.alter_comp]
  simp only [Json.onObject_onObject]
  rfl

theorem withHosts_withHosts (h : Spares "hosts" own) (f g : Object → Object)
    (cluster : Object) :
    withHosts own f (withHosts own' g cluster) =
      withHosts (fun cluster => own (own' cluster)) (fun host => f (g host)) cluster := by
  rw [withHosts, withHosts, h.alter_comp]
  simp only [Json.alterItems_alterItems, Json.onObject_onObject]
  rfl

theorem withHosts_own (h : Spares "hosts" own) (f : Object → Object) (cluster : Object) :
    own (withHosts own' f cluster) = withHosts (fun cluster => own (own' cluster)) f cluster :=
  h.alter_eq ..

end

/-! ## Tidy documents -/

/-- What takes the place of a user's name. -/
def pseudonym (v : Json) : Json :=
  anonymous (Json.unpack v)

/-- The object with the user's name replaced, still under its own key. -/
def maskUser (o : Object) : Object :=
  o.alter "user_name" pseudonym

/-- The object with what is under the key of a user's name moved to that of an identifier. -/
def moveUser (o : Object) : Object :=
  o.move "user_name" "user_id"

/-- The object with a pseudonym in the place of a user's name. -/
def hideUser (o : Object) : Object :=
  moveUser (maskUser o)

/-- The object with the values under some keys changed. -/
def alterAll (f : Json → Json) (keys : List String) (o : Object) : Object :=
  keys.foldl (fun o key => o.alter key f) o

/-- The object without some keys. -/
def eraseAll (keys : List String) (o : Object) : Object :=
  keys.foldl (fun o key => o.erase key) o

/-- The keys of an infra-env that are deleted. -/
def infraEnvSecrets : List String := ["ssh_authorized_key"]

/-- The keys of a cluster that are deleted. -/
def clusterSecrets : List String := ["pull_secret", "ssh_public_key"]

/-- The texts of a host that hold JSON. -/
def hostTexts : List String :=
  ["inventory", "connectivity", "disks_info", "domain_name_resolutions", "free_addresses",
    "images_status", "ntp_sources", "validations_info"]

/-- The maps of a host that become lists of their entries. -/
def hostMaps : List String := ["disks_info", "images_status"]

/-- The texts of a cluster that hold JSON. -/
def clusterTexts : List String :=
  ["feature_usage", "validations_info", "connectivity_majority_groups"]

/-- The maps of a cluster as lists, one without and one with its keys. -/
def listClusterMaps (cluster : Object) : Object :=
  (cluster.alter "feature_usage" (rewritten valuesOf)).alter "connectivity_majority_groups"
    (rewritten entriesOf)

/-- An infra-env of a host, tidied. -/
def tidyInfraEnv (infraEnv : Object) : Object :=
  eraseAll infraEnvSecrets (hideUser infraEnv)

/-- A host, tidied but for its infra-env. -/
def tidyHostFields (host : Object) : Object :=
  hideUser (alterAll (rewritten entriesOf) hostMaps (alterAll Json.unpack hostTexts host))

/-- A host, tidied. -/
def tidyHost : Object → Object :=
  withInfraEnv tidyHostFields tidyInfraEnv

/-- A cluster, tidied but for its hosts. -/
def tidyClusterFields (cluster : Object) : Object :=
  eraseAll clusterSecrets
    (hideUser (listClusterMaps (alterAll Json.unpack clusterTexts cluster)))

/-- A cluster with its hosts, tidied. -/
def tidyCluster : Object → Object :=
  withHosts tidyClusterFields tidyHost

/-- A document, tidied. -/
def tidyDocument (document : Object) : Object :=
  (document.alter "cluster" (onObject tidyCluster)).alter "infra_envs"
    (alterItems (onObject (eraseAll infraEnvSecrets)))

/-! ## What the changes look at -/

theorem get?_eraseAll (keys : List String) (o : Object) (key : String) :
    (eraseAll keys o).get? key = if key ∈ keys then none else o.get? key := by
  induction keys generalizing o with
  | nil => simp [eraseAll]
  | cons erased keys ih =>
      refine (ih _).trans ?_
      rw [Members.get?_erase]
      by_cases hmem : key ∈ keys
      · simp [hmem]
      · simp [hmem]

section

variable {keys : List String} {o o' : Object}

theorem eraseAll_eq (h : AgreeExcept keys o o') : eraseAll keys o = eraseAll keys o' := by
  refine Members.ext _ _ fun key => ?_
  simp only [get?_eraseAll]
  split
  · rfl
  · rename_i hkey
    exact h key hkey

theorem agree_alterAll (h : AgreeExcept keys o o') (f : Json → Json) (altered : List String) :
    AgreeExcept keys (alterAll f altered o) (alterAll f altered o') := by
  induction altered generalizing o o' with
  | nil => exact h
  | cons key altered ih => exact ih (h.alter key f)

/-- A pseudonym tells of the user's name, so the objects must agree on it. -/
theorem agree_hideUser (h : AgreeExcept keys o o') (hname : "user_name" ∉ keys) :
    AgreeExcept keys (hideUser o) (hideUser o') :=
  (h.alter "user_name" pseudonym).move hname "user_id"

end

section

variable {key : String}

theorem spares_alterAll {keys : List String} (h : key ∉ keys) (f : Json → Json) :
    Spares key (alterAll f keys) := by
  induction keys with
  | nil => exact ⟨fun _ => rfl, fun hagree => hagree⟩
  | cons other keys ih =>
      obtain ⟨hother, hkeys⟩ := not_or.1 (mt List.mem_cons.2 h)
      exact (ih hkeys).comp (Spares.alter hother f)

theorem spares_eraseAll {keys : List String} (h : key ∉ keys) : Spares key (eraseAll keys) := by
  induction keys with
  | nil => exact ⟨fun _ => rfl, fun hagree => hagree⟩
  | cons other keys ih =>
      obtain ⟨hother, hkeys⟩ := not_or.1 (mt List.mem_cons.2 h)
      exact (ih hkeys).comp (Spares.erase hother)

theorem spares_maskUser (h : key ≠ "user_name") : Spares key maskUser :=
  Spares.alter h pseudonym

theorem spares_moveUser (hname : key ≠ "user_name") (hid : key ≠ "user_id") :
    Spares key moveUser :=
  Spares.move hname hid

theorem spares_hideUser (hname : key ≠ "user_name") (hid : key ≠ "user_id") :
    Spares key hideUser :=
  (spares_moveUser hname hid).comp (spares_maskUser hname)

theorem spares_tidyInfraEnv (hsecrets : key ∉ infraEnvSecrets) (hname : key ≠ "user_name")
    (hid : key ≠ "user_id") : Spares key tidyInfraEnv :=
  (spares_eraseAll hsecrets).comp (spares_hideUser hname hid)

theorem spares_tidyHostFields (htexts : key ∉ hostTexts) (hname : key ≠ "user_name")
    (hid : key ≠ "user_id") : Spares key tidyHostFields := by
  have hmaps : key ∉ hostMaps := mt (fun h => (by decide : hostMaps ⊆ hostTexts) h) htexts
  exact (spares_hideUser hname hid).comp
    ((spares_alterAll hmaps _).comp (spares_alterAll htexts _))

end

theorem spares_tidyClusterFields : Spares "hosts" tidyClusterFields :=
  ((spares_eraseAll (by decide)).comp (spares_hideUser (by decide) (by decide))).comp
    (((Spares.alter (by decide) _).comp (Spares.alter (by decide) _)).comp
      (spares_alterAll (by decide) _))

theorem get?_hosts_tidyCluster (cluster : Object) :
    (tidyCluster cluster).get? "hosts" =
      (cluster.get? "hosts").map (alterItems (onObject tidyHost)) := by
  rw [tidyCluster, withHosts, Members.get?_alter, if_pos rfl, spares_tidyClusterFields.get?]

theorem get?_infraEnv_tidyHost (host : Object) :
    (tidyHost host).get? "infra_env" =
      (host.get? "infra_env").map (onObject tidyInfraEnv) := by
  rw [tidyHost, withInfraEnv, Members.get?_alter, if_pos rfl,
    (spares_tidyHostFields (by decide) (by decide) (by decide)).get?]

/-! ## Edits by parts -/

/-- A change of the cluster of a document. -/
def onCluster (f : Object → Object) : Json → Json :=
  alterChild "cluster" (onObject f)

/-- A change of each host in a document. -/
def onHosts (f : Object → Object) : Json → Json :=
  onCluster fun cluster => cluster.alter "hosts" (alterItems (onObject f))

theorem onCluster_id (tree : Json) : onCluster (fun cluster => cluster) tree = tree := by
  have hid : onObject (fun cluster => cluster) = fun v => v := by
    funext v
    cases v <;> rfl
  rw [onCluster, hid, alterChild]
  cases h : Json.child? "cluster" tree with
  | none => rfl
  | some below => exact Json.setChild_of_child? h

theorem onCluster_onCluster (f g : Object → Object) (tree : Json) :
    onCluster f (onCluster g tree) = onCluster (fun cluster => f (g cluster)) tree := by
  simp only [onCluster, Json.alterChild_alterChild, Json.onObject_onObject]

theorem onHosts_onCluster (f own : Object → Object) (tree : Json) :
    onHosts f (onCluster own tree) = onCluster (withHosts own f) tree :=
  onCluster_onCluster ..

theorem onHosts_withHosts (f own host : Object → Object) (tree : Json) :
    onHosts f (onCluster (withHosts own host) tree) =
      onCluster (withHosts own fun o => f (host o)) tree := by
  rw [onHosts, onCluster_onCluster]
  simp only [withHosts, Members.alter_alter, Json.alterItems_alterItems, Json.onObject_onObject]
  rfl

theorem alter_hosts (f : Object → Object) :
    alter ["cluster", "hosts"] (alterItems (onObject f)) = onHosts f := by
  rw [Json.alter_cons, Json.alter_cons,
    Json.alterChild_eq_onObject (rfl : Json.index? "hosts" = none)]
  rfl

theorem alterChild_infraEnv (f : Object → Object) :
    alterChild "infra_env" (onObject f) =
      onObject fun host => host.alter "infra_env" (onObject f) :=
  Json.alterChild_eq_onObject rfl _

section

variable {key : String} (hkey : Json.index? key = none) (f : Json → Json)

include hkey

theorem edit_cluster : Target.edit (alter · f) (.one ["cluster", key]) =
    onCluster fun cluster => cluster.alter key f := by
  rw [Target.edit, Json.alter_cons, Json.alter_cons, Json.alterChild_eq_onObject hkey]
  rfl

theorem edit_hosts : Target.edit (alter · f) (.each ["cluster", "hosts"] [key]) =
    onHosts fun host => host.alter key f := by
  rw [← alter_hosts, ← Json.alterChild_eq_onObject hkey]
  rfl

theorem edit_infraEnvs : Target.edit (alter · f) (.each ["cluster", "hosts"] ["infra_env", key]) =
    onHosts fun host => host.alter "infra_env" (onObject fun o => o.alter key f) := by
  rw [← alter_hosts, ← alterChild_infraEnv, ← Json.alterChild_eq_onObject hkey]
  rfl

end

/-- The same change of several values of a cluster. -/
theorem foldl_edit_cluster {keys : List String} (hkeys : ∀ key ∈ keys, Json.index? key = none)
    (f : Json → Json) (tree : Json) :
    (keys.map fun key => Target.one ["cluster", key]).foldl
        (fun tree target => target.edit (alter · f) tree) tree =
      onCluster (alterAll f keys) tree := by
  induction keys generalizing tree with
  | nil => exact (onCluster_id tree).symm
  | cons key keys ih =>
      rw [List.map_cons, List.foldl_cons, edit_cluster (hkeys key List.mem_cons_self),
        ih (fun other hother => hkeys other (List.mem_cons_of_mem key hother)),
        onCluster_onCluster]
      rfl

/-- The same change of several values of each host, after others. -/
theorem foldl_edit_withHosts {keys : List String}
    (hkeys : ∀ key ∈ keys, Json.index? key = none) (f : Json → Json)
    (own host : Object → Object) (tree : Json) :
    (keys.map fun key => Target.each ["cluster", "hosts"] [key]).foldl
        (fun tree target => target.edit (alter · f) tree) (onCluster (withHosts own host) tree) =
      onCluster (withHosts own fun o => alterAll f keys (host o)) tree := by
  induction keys generalizing host with
  | nil => rfl
  | cons key keys ih =>
      rw [List.map_cons, List.foldl_cons, edit_hosts (hkeys key List.mem_cons_self),
        onHosts_withHosts]
      exact ih (fun other hother => hkeys other (List.mem_cons_of_mem key hother)) _

/-- The same change of several values of each host. Without a key there would be no
change at all, whereas `withHosts` unpacks the list of hosts. -/
theorem foldl_edit_hosts {key : String} {keys : List String}
    (hkeys : ∀ k ∈ key :: keys, Json.index? k = none) (f : Json → Json)
    (own : Object → Object) (tree : Json) :
    ((key :: keys).map fun k => Target.each ["cluster", "hosts"] [k]).foldl
        (fun tree target => target.edit (alter · f) tree) (onCluster own tree) =
      onCluster (withHosts own (alterAll f (key :: keys))) tree := by
  rw [List.map_cons, List.foldl_cons, edit_hosts (hkeys key List.mem_cons_self),
    onHosts_onCluster]
  exact foldl_edit_withHosts (fun k hk => hkeys k (List.mem_cons_of_mem key hk)) ..

/-! ## The stages -/

theorem transform_unpack (tree : Json) :
    (Json.transform .ok standard.unpack tree).1 =
      onCluster (withHosts (alterAll Json.unpack clusterTexts) (alterAll Json.unpack hostTexts))
        tree := by
  have hpaths : standard.unpack.map Target.ofPath =
      ((clusterTexts.map fun key => Target.one ["cluster", key]) ++
        hostTexts.map fun key => Target.each ["cluster", "hosts"] [key]).map .ok := rfl
  rw [Json.transform_fst .ok _ hpaths, List.foldl_append, foldl_edit_cluster (by decide)]
  exact foldl_edit_hosts (by decide) ..

theorem transform_listValues (tree : Json) :
    (Json.transform valuesOf standard.listValues tree).1 =
      onCluster (fun cluster => cluster.alter "feature_usage" (rewritten valuesOf)) tree := by
  have hpaths : standard.listValues.map Target.ofPath =
      [Target.one ["cluster", "feature_usage"]].map .ok := rfl
  rw [Json.transform_fst valuesOf _ hpaths, List.foldl_cons, edit_cluster rfl]
  rfl

theorem transform_listEntries (tree : Json) :
    (Json.transform entriesOf standard.listEntries tree).1 =
      onCluster (withHosts
        (fun cluster => cluster.alter "connectivity_majority_groups" (rewritten entriesOf))
        (alterAll (rewritten entriesOf) hostMaps)) tree := by
  have hpaths : standard.listEntries.map Target.ofPath =
      (Target.one ["cluster", "connectivity_majority_groups"] ::
        hostMaps.map fun key => Target.each ["cluster", "hosts"] [key]).map .ok := rfl
  rw [Json.transform_fst entriesOf _ hpaths, List.foldl_cons, edit_cluster rfl]
  exact foldl_edit_hosts (by decide) ..

theorem transform_anonymize (tree : Json) :
    (Json.transform (fun v => .ok (anonymous v)) (standard.anonymize.map Prod.fst) tree).1 =
      onCluster (withHosts maskUser (withInfraEnv maskUser maskUser)) tree := by
  have hpaths : (standard.anonymize.map Prod.fst).map Target.ofPath =
      [Target.one ["cluster", "user_name"], Target.each ["cluster", "hosts"] ["user_name"],
        Target.each ["cluster", "hosts"] ["infra_env", "user_name"]].map .ok := rfl
  rw [Json.transform_fst _ _ hpaths]
  simp only [List.foldl_cons, List.foldl_nil]
  rw [edit_cluster rfl, edit_hosts rfl, edit_infraEnvs rfl, onHosts_onCluster, onHosts_withHosts]
  rfl

theorem rename_anonymize (tree : Json) :
    (Json.rename standard.anonymize tree).1 =
      onCluster (withHosts moveUser (withInfraEnv moveUser moveUser)) tree := by
  have hmove : relocate ["user_name"] ["user_id"] = onObject moveUser :=
    Json.relocate_eq_onObject rfl (by decide)
  have hbelow {parent : String} (hparent : parent.isEmpty = false) :
      relocate [parent, "user_name"] [parent, "user_id"] =
        alterChild parent (onObject moveUser) := by
    rw [← hmove]
    exact funext (Json.relocate_append [parent] (List.cons_ne_nil _ _) (by simp [hparent]))
  have hcluster (tree : Json) :
      (Json.renamePair ("cluster.user_name", "cluster.user_id") tree).1 =
        onCluster moveUser tree := by
    rw [Json.renamePair_fst_of_single (by decide) rfl rfl]
    exact congrFun (hbelow (by decide)) tree
  have hhosts (tree : Json) :
      (Json.renamePair ("cluster.hosts[*].user_name", "cluster.hosts[*].user_id") tree).1 =
        onHosts moveUser tree := by
    rw [Json.renamePair_fst_of_each "cluster.hosts" "user_name" "user_id" (by decide) rfl rfl,
      ← alter_hosts, ← hmove]
    rfl
  have hinfraEnvs (tree : Json) :
      (Json.renamePair ("cluster.hosts[*].infra_env.user_name",
        "cluster.hosts[*].infra_env.user_id") tree).1 =
        onHosts (fun host => host.alter "infra_env" (onObject moveUser)) tree := by
    rw [Json.renamePair_fst_of_each "cluster.hosts" "infra_env.user_name" "infra_env.user_id"
      (by decide) rfl rfl, ← alter_hosts, ← alterChild_infraEnv, ← hbelow (by decide)]
    rfl
  simp only [Json.rename, standard, Json.editAll, hcluster, hhosts, hinfraEnvs]
  rw [onHosts_onCluster, onHosts_withHosts]
  rfl

theorem delete_standard (tree : Json) :
    (Json.delete standard.delete tree).1 =
      alterChild "infra_envs" (alterItems (onObject (eraseAll infraEnvSecrets)))
        (onCluster (withHosts (eraseAll clusterSecrets)
          fun host => host.alter "infra_env" (onObject (eraseAll infraEnvSecrets))) tree) := by
  have herase (parent : String) {key : String} (hkey : Json.index? key = none) :
      Json.erase [parent, key] = alterChild parent (onObject fun o => o.erase key) := by
    rw [← Json.erase_eq_onObject hkey]
    exact funext (Json.erase_eq_alter [parent] (List.cons_ne_nil key []))
  have hpaths : standard.delete.map Target.ofPath =
      [Target.one ["cluster", "pull_secret"], Target.one ["cluster", "ssh_public_key"],
        Target.each ["cluster", "hosts"] ["infra_env", "ssh_authorized_key"],
        Target.each ["infra_envs"] ["ssh_authorized_key"]].map .ok := rfl
  have hinfraEnvs : Target.edit Json.erase
      (.each ["cluster", "hosts"] ["infra_env", "ssh_authorized_key"]) =
        onHosts fun host => host.alter "infra_env" (onObject (eraseAll infraEnvSecrets)) := by
    rw [Target.edit, herase "infra_env" rfl, ← alter_hosts, ← alterChild_infraEnv]
    rfl
  rw [Json.delete_fst _ hpaths]
  simp only [List.foldl_cons, List.foldl_nil, hinfraEnvs]
  rw [Target.edit, Target.edit, Target.edit, herase "cluster" rfl, herase "cluster" rfl,
    Json.erase_eq_onObject rfl]
  exact congrArg (alterChild "infra_envs" _)
    ((congrArg (onHosts _) (onCluster_onCluster ..)).trans (onHosts_onCluster ..))

/-! ## The stages together -/

theorem apply_eq_stages (rules : FieldRules) (tree : Json) :
    rules.apply tree =
      (Json.delete rules.delete (Json.rename rules.anonymize
        (Json.transform (fun v => .ok (anonymous v)) (rules.anonymize.map Prod.fst)
          (Json.transform entriesOf rules.listEntries
            (Json.transform valuesOf rules.listValues
              (Json.transform .ok rules.unpack tree).1).1).1).1).1).1 := rfl

/-- What the last three stages do to a host that the others have dealt with. -/
theorem tidyHost_eq (host : Object) :
    tidyHost host =
      (withInfraEnv moveUser moveUser (withInfraEnv maskUser maskUser
        (alterAll (rewritten entriesOf) hostMaps (alterAll Json.unpack hostTexts host)))).alter
        "infra_env" (onObject (eraseAll infraEnvSecrets)) := by
  rw [withInfraEnv_withInfraEnv (spares_moveUser (by decide) (by decide)), withInfraEnv,
    Members.alter_alter]
  simp only [Json.onObject_onObject]
  rfl

theorem tidyCluster_eq (cluster : Object) :
    tidyCluster cluster =
      withHosts (eraseAll clusterSecrets)
        (fun host => host.alter "infra_env" (onObject (eraseAll infraEnvSecrets)))
        (withHosts moveUser (withInfraEnv moveUser moveUser)
          (withHosts maskUser (withInfraEnv maskUser maskUser)
            (withHosts
              (fun cluster => cluster.alter "connectivity_majority_groups" (rewritten entriesOf))
              (alterAll (rewritten entriesOf) hostMaps)
              ((withHosts (alterAll Json.unpack clusterTexts) (alterAll Json.unpack hostTexts)
                cluster).alter "feature_usage" (rewritten valuesOf))))) := by
  have hsecrets : Spares "hosts" (eraseAll clusterSecrets) := spares_eraseAll (by decide)
  have hgroups : Spares "hosts" fun cluster =>
      cluster.alter "connectivity_majority_groups" (rewritten entriesOf) :=
    Spares.alter (by decide) _
  have husage : Spares "hosts" fun cluster =>
      cluster.alter "feature_usage" (rewritten valuesOf) :=
    Spares.alter (by decide) _
  rw [withHosts_own husage, withHosts_withHosts hgroups,
    withHosts_withHosts (spares_maskUser (by decide)),
    withHosts_withHosts (spares_moveUser (by decide) (by decide)),
    withHosts_withHosts hsecrets]
  simp only [← tidyHost_eq]
  rfl

theorem apply_standard (tree : Json) : standard.apply tree = onObject tidyDocument tree := by
  rw [apply_eq_stages, delete_standard, rename_anonymize, transform_anonymize,
    transform_listEntries, transform_listValues, transform_unpack]
  simp only [onCluster_onCluster, ← tidyCluster_eq]
  rw [Json.alterChild_eq_onObject rfl, onCluster, Json.alterChild_eq_onObject rfl,
    Json.onObject_onObject]
  rfl

end ClusterEvents.FieldRules
