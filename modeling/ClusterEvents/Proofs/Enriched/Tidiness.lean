import ClusterEvents.Proofs.Enriched.Standard

/-!
# Tidy documents stay as they are

A cluster, a host and the infra-env of a host are tidied by the same stages, each with keys of
its own: texts are unpacked, maps become lists, the user's name is hidden, and secrets are
deleted (`tidyFields`). `IsTidy` says what this leaves: nothing that one of the stages would
change. So what is tidy stays as it is, `tidyFields_eq_self`, and what has been tidied is tidy,
`isTidy_tidyFields`.

A document is tidied part by part, so the standard rules change nothing when they are run a
second time, whatever value they were run on at first: `apply_apply_standard`.
-/

namespace ClusterEvents.FieldRules

open Json (alterItems onObject rewritten)
open Members (Spares)

/-! ## Values that stay as they are -/

/-- The function turns maps into lists, and refuses everything else. -/
structure ListsMaps (f : Json → Except String Json) : Prop where
  map (o : Object) : ∃ items, f (.obj o) = .ok (.arr items)
  other {v : Json} (h : v.object? = none) : ∃ reason, f v = .error reason

theorem listsMaps_valuesOf : ListsMaps valuesOf where
  map o := ⟨_, rfl⟩
  other {v} h := by
    cases v with
    | obj o => cases h
    | _ => exact ⟨_, rfl⟩

theorem listsMaps_entriesOf : ListsMaps entriesOf where
  map o := ⟨_, rfl⟩
  other {v} h := by
    cases v with
    | obj o => cases h
    | _ => exact ⟨_, rfl⟩

/-- The value stands for itself, and not for what it holds as a text. -/
def IsUnpacked (v : Json) : Prop :=
  Json.unpack v = v

/-- The value neither is a map nor a text that holds one. -/
def HoldsNoMap (v : Json) : Prop :=
  (Json.unpack v).object? = none

section

variable {f : Json → Except String Json} {v : Json}

theorem rewritten_eq_self (hf : ListsMaps f) (h : HoldsNoMap v) : rewritten f v = v := by
  obtain ⟨reason, hreason⟩ := hf.other h
  rw [rewritten, hreason]

/-- A value is turned into a list, unless it holds no map and stays as it is. -/
theorem rewritten_eq (hf : ListsMaps f) (v : Json) :
    (∃ items, rewritten f v = .arr items) ∨ (HoldsNoMap v ∧ rewritten f v = v) := by
  cases hmap : (Json.unpack v).object? with
  | none => exact .inr ⟨hmap, rewritten_eq_self hf hmap⟩
  | some o =>
      have hunpack : Json.unpack v = .obj o := by
        generalize Json.unpack v = w at hmap
        cases w with
        | obj o' => exact congrArg Json.obj (Option.some.inj hmap)
        | _ => cases hmap
      obtain ⟨items, hitems⟩ := hf.map o
      exact .inl ⟨items, by rw [rewritten, hunpack, hitems]⟩

theorem holdsNoMap_rewritten (hf : ListsMaps f) (v : Json) : HoldsNoMap (rewritten f v) := by
  obtain ⟨items, hitems⟩ | ⟨hno, hself⟩ := rewritten_eq hf v
  · rw [hitems]
    rfl
  · rwa [hself]

theorem IsUnpacked.rewritten (h : IsUnpacked v) (hf : ListsMaps f) :
    IsUnpacked (rewritten f v) := by
  obtain ⟨items, hitems⟩ | ⟨-, hself⟩ := rewritten_eq hf v
  · rw [hitems]
    rfl
  · rwa [hself]

end

theorem get?_hideUser_userName (o : Object) : (hideUser o).get? "user_name" = none := by
  rw [hideUser, moveUser, Members.get?_move, if_pos rfl]

/-! ## What is under keys -/

/-- What the object has under the keys, if anything, has the property. -/
def Under (keys : List String) (P : Json → Prop) (o : Object) : Prop :=
  ∀ key ∈ keys, ∀ v, o.get? key = some v → P v

/-- Changes of values, each with the key of the value that it is made to. -/
abbrev Changes := List (String × (Json → Json))

/-- The object with the changes made, one after the other. -/
def alterEach (changes : Changes) (o : Object) : Object :=
  changes.foldl (fun o change => o.alter change.1 change.2) o

theorem alterEach_cons (change : String × (Json → Json)) (changes : Changes) (o : Object) :
    alterEach (change :: changes) o = alterEach changes (o.alter change.1 change.2) := rfl

theorem alterEach_map (f : Json → Json) (keys : List String) (o : Object) :
    alterEach (keys.map fun key => (key, f)) o = alterAll f keys o :=
  List.foldl_map

section

variable {keys : List String} {P : Json → Prop} {o : Object} {changes : Changes}

theorem Under.alter {f : Json → Json} (h : Under keys P o) (hf : ∀ v, P v → P (f v))
    (key : String) : Under keys P (o.alter key f) := by
  intro other hother v hv
  rw [Members.get?_alter] at hv
  split at hv
  · rename_i heq
    obtain ⟨w, hw, rfl⟩ := Option.map_eq_some_iff.1 hv
    exact hf w (h key (heq ▸ hother) w hw)
  · exact h other hother v hv

theorem Under.alterEach (h : Under keys P o)
    (hchanges : ∀ change ∈ changes, ∀ v, P v → P (change.2 v)) :
    Under keys P (alterEach changes o) := by
  induction changes generalizing o with
  | nil => exact h
  | cons change changes ih =>
      exact ih (h.alter (hchanges change List.mem_cons_self) change.1)
        fun other hother => hchanges other (List.mem_cons_of_mem change hother)

/-- What a change leaves under its key stays so through the changes behind it. -/
theorem under_alterEach (hchanges : ∀ change ∈ changes, ∀ v, P (change.2 v)) (o : Object) :
    Under (changes.map Prod.fst) P (alterEach changes o) := by
  induction changes generalizing o with
  | nil => exact fun _ hnil => absurd hnil List.not_mem_nil
  | cons change changes ih =>
      have hrest : ∀ other ∈ changes, ∀ v, P (other.2 v) :=
        fun other hother => hchanges other (List.mem_cons_of_mem change hother)
      have hfirst : Under [change.1] P (o.alter change.1 change.2) := by
        intro key hkey v hv
        rw [List.mem_singleton.1 hkey, Members.get?_alter, if_pos rfl] at hv
        obtain ⟨w, -, rfl⟩ := Option.map_eq_some_iff.1 hv
        exact hchanges change List.mem_cons_self w
      intro key hkey
      rcases List.mem_cons.1 hkey with rfl | hkey
      · exact hfirst.alterEach (fun other hother v _ => hrest other hother v) _
          (List.mem_singleton_self _)
      · exact ih hrest _ key hkey

theorem Under.hideUser (h : Under keys P o) (hid : "user_id" ∉ keys) :
    Under keys P (hideUser o) := by
  intro key hkey v hv
  have hne : key ≠ "user_id" := fun heq => hid (heq ▸ hkey)
  by_cases hname : key = "user_name"
  · rw [hname, get?_hideUser_userName] at hv
    cases hv
  · rw [(spares_hideUser hname hne).get?] at hv
    exact h key hkey v hv

theorem Under.eraseAll (h : Under keys P o) (erased : List String) :
    Under keys P (eraseAll erased o) := by
  intro key hkey v hv
  rw [get?_eraseAll] at hv
  split at hv
  · cases hv
  · exact h key hkey v hv

/-! ## Changes that do nothing -/

theorem alter_eq_self {key : String} {f : Json → Json}
    (h : ∀ v, o.get? key = some v → f v = v) : o.alter key f = o := by
  rw [Members.alter]
  cases hv : o.get? key with
  | none => rfl
  | some v => exact Members.insert_eq_self (hv.trans (congrArg some (h v hv).symm))

theorem alterEach_eq_self
    (h : ∀ change ∈ changes, ∀ v, o.get? change.1 = some v → change.2 v = v) :
    alterEach changes o = o := by
  induction changes with
  | nil => rfl
  | cons change changes ih =>
      rw [alterEach_cons, alter_eq_self (h change List.mem_cons_self)]
      exact ih fun other hother => h other (List.mem_cons_of_mem change hother)

theorem eraseAll_eq_self (h : ∀ key ∈ keys, o.get? key = none) : eraseAll keys o = o := by
  refine Members.ext _ _ fun key => ?_
  rw [get?_eraseAll]
  split
  · rename_i hkey
    exact (h key hkey).symm
  · rfl

theorem hideUser_eq_self (h : o.get? "user_name" = none) : hideUser o = o := by
  have hmask : maskUser o = o := by rw [maskUser, Members.alter, h]
  rw [hideUser, hmask, moveUser, Members.move, h]

end

/-! ## The stages, with keys of one's own -/

/-- Maps that become lists, each with the function that makes a list of it. -/
abbrev Listings := List (String × (Json → Except String Json))

/-- Texts are unpacked. -/
def unpackings (texts : List String) : Changes :=
  texts.map fun key => (key, Json.unpack)

/-- Maps become lists. -/
def listingChanges (listings : Listings) : Changes :=
  listings.map fun listing => (listing.1, rewritten listing.2)

/-- An object, tidied by itself. -/
def tidyFields (texts : List String) (listings : Listings) (secrets : List String) (o : Object) :
    Object :=
  eraseAll secrets (hideUser (alterEach (listingChanges listings) (alterEach (unpackings texts) o)))

/-- There is nothing in the object that one of the stages would change. -/
structure IsTidy (texts : List String) (listings : Listings) (secrets : List String)
    (o : Object) : Prop where
  texts : Under texts IsUnpacked o
  maps : Under (listings.map Prod.fst) HoldsNoMap o
  name : o.get? "user_name" = none
  secrets : ∀ key ∈ secrets, o.get? key = none

theorem under_unpackings (texts : List String) (o : Object) :
    Under texts IsUnpacked (alterEach (unpackings texts) o) := by
  have hkeys : (unpackings texts).map Prod.fst = texts := by
    simp [unpackings, Function.comp_def]
  have hunder : Under ((unpackings texts).map Prod.fst) IsUnpacked
      (alterEach (unpackings texts) o) := by
    refine under_alterEach (fun change hchange v => ?_) o
    obtain ⟨key, -, rfl⟩ := List.mem_map.1 hchange
    exact Json.unpack_unpack v
  rwa [hkeys] at hunder

section

variable {texts secrets : List String} {listings : Listings} {o : Object}
  (hlistings : ∀ listing ∈ listings, ListsMaps listing.2)

include hlistings

theorem tidyFields_eq_self (h : IsTidy texts listings secrets o) :
    tidyFields texts listings secrets o = o := by
  have hunpacked : alterEach (unpackings texts) o = o := by
    refine alterEach_eq_self fun change hchange v hv => ?_
    obtain ⟨key, hkey, rfl⟩ := List.mem_map.1 hchange
    exact h.texts key hkey v hv
  have hlisted : alterEach (listingChanges listings) o = o := by
    refine alterEach_eq_self fun change hchange v hv => ?_
    obtain ⟨listing, hlisting, rfl⟩ := List.mem_map.1 hchange
    exact rewritten_eq_self (hlistings listing hlisting)
      (h.maps listing.1 (List.mem_map_of_mem hlisting) v hv)
  rw [tidyFields, hunpacked, hlisted, hideUser_eq_self h.name, eraseAll_eq_self h.secrets]

theorem under_listingChanges (o : Object) :
    Under (listings.map Prod.fst) HoldsNoMap (alterEach (listingChanges listings) o) := by
  have hkeys : (listingChanges listings).map Prod.fst = listings.map Prod.fst := by
    simp [listingChanges]
  rw [← hkeys]
  refine under_alterEach (fun change hchange v => ?_) o
  obtain ⟨listing, hlisting, rfl⟩ := List.mem_map.1 hchange
  exact holdsNoMap_rewritten (hlistings listing hlisting) v

theorem isUnpacked_listingChanges (h : Under texts IsUnpacked o) :
    Under texts IsUnpacked (alterEach (listingChanges listings) o) := by
  refine h.alterEach fun change hchange v hv => ?_
  obtain ⟨listing, hlisting, rfl⟩ := List.mem_map.1 hchange
  exact hv.rewritten (hlistings listing hlisting)

theorem isTidy_tidyFields (htexts : "user_id" ∉ texts)
    (hmaps : "user_id" ∉ listings.map Prod.fst) (secrets : List String) (o : Object) :
    IsTidy texts listings secrets (tidyFields texts listings secrets o) where
  texts :=
    ((isUnpacked_listingChanges hlistings (under_unpackings texts o)).hideUser htexts).eraseAll
      secrets
  maps := ((under_listingChanges hlistings _).hideUser hmaps).eraseAll secrets
  name := by
    rw [tidyFields, get?_eraseAll]
    split
    · rfl
    · exact get?_hideUser_userName _
  secrets key hkey := by rw [tidyFields, get?_eraseAll, if_pos hkey]

theorem tidyFields_tidyFields (htexts : "user_id" ∉ texts)
    (hmaps : "user_id" ∉ listings.map Prod.fst) (secrets : List String) (o : Object) :
    tidyFields texts listings secrets (tidyFields texts listings secrets o) =
      tidyFields texts listings secrets o :=
  tidyFields_eq_self hlistings (isTidy_tidyFields hlistings htexts hmaps secrets o)

end

/-! ## Clusters, hosts and infra-envs -/

theorem tidyInfraEnv_tidyInfraEnv (infraEnv : Object) :
    tidyInfraEnv (tidyInfraEnv infraEnv) = tidyInfraEnv infraEnv := by
  have hfields : tidyInfraEnv = tidyFields [] [] infraEnvSecrets := rfl
  rw [hfields]
  exact tidyFields_tidyFields (List.forall_mem_nil _) List.not_mem_nil List.not_mem_nil _ _

theorem tidyHostFields_tidyHostFields (host : Object) :
    tidyHostFields (tidyHostFields host) = tidyHostFields host := by
  have hmaps : listingChanges (hostMaps.map fun key => (key, entriesOf)) =
      hostMaps.map fun key => (key, rewritten entriesOf) := List.map_map
  have hfields : tidyHostFields =
      tidyFields hostTexts (hostMaps.map fun key => (key, entriesOf)) [] := by
    funext host
    rw [tidyFields, hmaps, unpackings, alterEach_map, alterEach_map, eraseAll, List.foldl_nil,
      tidyHostFields]
  rw [hfields]
  refine tidyFields_tidyFields (fun listing hlisting => ?_) (by decide) (by decide) _ _
  obtain ⟨key, -, rfl⟩ := List.mem_map.1 hlisting
  exact listsMaps_entriesOf

theorem tidyClusterFields_tidyClusterFields (cluster : Object) :
    tidyClusterFields (tidyClusterFields cluster) = tidyClusterFields cluster := by
  have hfields : tidyClusterFields = tidyFields clusterTexts
      [("feature_usage", valuesOf), ("connectivity_majority_groups", entriesOf)]
      clusterSecrets := rfl
  rw [hfields]
  refine tidyFields_tidyFields ?_ (by decide) (by decide) _ _
  simp [listsMaps_valuesOf, listsMaps_entriesOf]

theorem tidyHost_tidyHost (host : Object) : tidyHost (tidyHost host) = tidyHost host := by
  have hspares : Spares "infra_env" tidyHostFields :=
    spares_tidyHostFields (by decide) (by decide) (by decide)
  rw [tidyHost, withInfraEnv_withInfraEnv hspares]
  simp only [tidyHostFields_tidyHostFields, tidyInfraEnv_tidyInfraEnv]

theorem tidyCluster_tidyCluster (cluster : Object) :
    tidyCluster (tidyCluster cluster) = tidyCluster cluster := by
  rw [tidyCluster, withHosts_withHosts spares_tidyClusterFields]
  simp only [tidyClusterFields_tidyClusterFields, tidyHost_tidyHost]

/-! ## Documents -/

theorem eraseAll_eraseAll (keys : List String) (o : Object) :
    eraseAll keys (eraseAll keys o) = eraseAll keys o :=
  eraseAll_eq_self fun key hkey => by rw [get?_eraseAll, if_pos hkey]

theorem tidyDocument_tidyDocument (document : Object) :
    tidyDocument (tidyDocument document) = tidyDocument document := by
  have hspares : Spares "cluster" fun o : Object =>
      o.alter "infra_envs" (alterItems (onObject (eraseAll infraEnvSecrets))) :=
    Spares.alter (by decide) _
  have hown := fun o : Object => hspares.alter_eq o (onObject tidyCluster)
  simp only [tidyDocument, hown, Members.alter_alter, Json.onObject_onObject,
    Json.alterItems_alterItems, tidyCluster_tidyCluster, eraseAll_eraseAll]

/-- The standard rules leave nothing for a second run: what they make of a value, whatever it
is, they do not change any more. -/
theorem apply_apply_standard (tree : Json) :
    standard.apply (standard.apply tree) = standard.apply tree := by
  simp only [apply_standard, Json.onObject_onObject, tidyDocument_tidyDocument]

end ClusterEvents.FieldRules
