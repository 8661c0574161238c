import ClusterEvents.Proofs.Enriched.Documents

/-!
# Names of users

Under the standard rules no object keeps a user's name under its own key. Its digest takes
the place of a name that is an ordinary text. A name that is itself the text of a JSON
object or list is unpacked before it is digested, as every value is that a path leads to;
only texts are digested, so what such a name holds is stored as it is.
`user_id_eq_digest_iff` draws the line between the two.
-/

namespace ClusterEvents.EnrichedEvent

open Json (held?)
open FieldRules

/-! ## Digests are never unpacked -/

theorem opensContainer_digitChar {n : Nat} (h : n < 16) :
    Json.opensContainer (Nat.digitChar n) = false := by
  revert n
  decide

theorem held?_hex (bytes : Bytes) : held? (Text.hex bytes) = none := by
  refine Json.held?_eq_none_of_forall fun c hc => ?_
  rw [Text.hex, String.toList_ofList, List.mem_flatMap] at hc
  obtain ⟨b, -, hc⟩ := hc
  have hb : b.toNat < 256 := b.toNat_lt
  simp only [Text.hexByte, List.mem_cons, List.not_mem_nil, or_false] at hc
  rcases hc with rfl | rfl
  · exact opensContainer_digitChar (by omega)
  · exact opensContainer_digitChar (by omega)

/-- What is stored for a name: what it holds, or else its digest. -/
theorem unpack_pseudonym (s : String) :
    Json.unpack (pseudonym (.str s)) = (held? s).getD (.str (Digest.Md5.hexText s)) := by
  rw [pseudonym, Json.unpack_str]
  cases h : held? s with
  | none =>
      rw [Option.getD_none, Option.getD_none, anonymous, Json.unpack_str, Digest.Md5.hexText,
        held?_hex, Option.getD_none]
  | some v =>
      have hv := (Json.held?_eq_some_iff.1 h).2
      rw [Option.getD_some, Option.getD_some]
      cases v with
      | str s => cases hv
      | _ => rfl

/-! ## Objects without a name -/

/-- The object has no name of a user, and under the key of an identifier what is stored
for the name `s`. -/
structure HidesUser (s : String) (o : Object) : Prop where
  name : o.get? "user_name" = none
  identifier : o.get? "user_id" = some ((held? s).getD (.str (Digest.Md5.hexText s)))

variable {s : String} {o : Object}

theorem hidesUser_hideUser (h : o.get? "user_name" = some (.str s)) :
    HidesUser s (hideUser o) := by
  constructor
  · simp [hideUser, moveUser, Members.get?_move]
  · simp [hideUser, moveUser, maskUser, Members.get?_move, Members.get?_alter, h,
      unpack_pseudonym]

theorem HidesUser.eraseAll {keys : List String} (h : HidesUser s o)
    (hkey : "user_id" ∉ keys) : HidesUser s (eraseAll keys o) := by
  constructor
  · rw [get?_eraseAll, h.name, ite_self]
  · rw [get?_eraseAll, if_neg hkey, h.identifier]

theorem HidesUser.alter {key : String} (h : HidesUser s o) (hname : key ≠ "user_name")
    (hid : key ≠ "user_id") (f : Json → Json) : HidesUser s (o.alter key f) := by
  constructor
  · rw [Members.get?_alter, if_neg hname.symm, h.name]
  · rw [Members.get?_alter, if_neg hid.symm, h.identifier]

/-! ## Places of names -/

/-- The host at a position in the list that a cluster has. -/
def hostAt? (c : Object) (i : Nat) : Option Object :=
  (((c.get? "hosts").bind Json.items?).bind (·[i]?)).bind Json.object?

/-- Where a cluster has a user's name: in itself, in a host, or in a host's infra-env. -/
inductive Place where
  | cluster
  | host (i : Nat)
  | infraEnv (i : Nat)

namespace Place

/-- The object at a place, if there is one. -/
def object? (c : Object) : Place → Option Object
  | .cluster => some c
  | .host i => hostAt? c i
  | .infraEnv i => (hostAt? c i).bind fun host => (host.get? "infra_env").bind Json.object?

/-- What becomes of the object at a place. -/
def tidy : Place → Object → Object
  | .cluster => tidyCluster
  | .host _ => tidyHost
  | .infraEnv _ => tidyInfraEnv

end Place

theorem hostAt?_tidyCluster {c : Object} {items : List Json}
    (h : c.get? "hosts" = some (.arr items)) (i : Nat) :
    hostAt? (tidyCluster c) i = (hostAt? c i).map tidyHost := by
  rw [hostAt?, hostAt?, get?_hosts_tidyCluster, h]
  simp only [Option.map_some, Json.alterItems_arr, Option.bind_some, Json.items?,
    List.getElem?_map, Json.bind_object?_map_onObject]

theorem object?_tidyCluster {c : Object} {items : List Json}
    (h : c.get? "hosts" = some (.arr items)) (place : Place) :
    place.object? (tidyCluster c) = (place.object? c).map place.tidy := by
  cases place with
  | cluster => rfl
  | host i => exact hostAt?_tidyCluster h i
  | infraEnv i =>
      rw [Place.object?, Place.object?, hostAt?_tidyCluster h]
      cases hostAt? c i with
      | none => rfl
      | some host =>
          rw [Option.map_some, Option.bind_some, Option.bind_some, Place.tidy,
            get?_infraEnv_tidyHost]
          exact Json.bind_object?_map_onObject ..

/-- Wherever a name is, what is tidied has hidden it. -/
theorem hidesUser_tidy (place : Place) (h : o.get? "user_name" = some (.str s)) :
    HidesUser s (place.tidy o) := by
  have halter (f : Json → Json) (keys : List String) (hkeys : "user_name" ∉ keys)
      {o : Object} (h : o.get? "user_name" = some (.str s)) :
      (alterAll f keys o).get? "user_name" = some (.str s) :=
    ((spares_alterAll hkeys f).get? o).trans h
  cases place with
  | cluster =>
      have hlisted : (listClusterMaps (alterAll Json.unpack clusterTexts o)).get? "user_name" =
          some (.str s) := by
        rw [listClusterMaps, Members.get?_alter, if_neg (by decide), Members.get?_alter,
          if_neg (by decide)]
        exact halter _ _ (by decide) h
      exact ((hidesUser_hideUser hlisted).eraseAll (by decide)).alter (by decide) (by decide) _
  | host i =>
      have hlisted := halter (Json.rewritten entriesOf) hostMaps (by decide)
        (halter Json.unpack hostTexts (by decide) h)
      exact (hidesUser_hideUser hlisted).alter (by decide) (by decide) _
  | infraEnv i => exact (hidesUser_hideUser h).eraseAll (by decide)

/-! ## Names in documents -/

theorem object?_enrich (event : Event) (cluster : Snapshot) (hosts infraEnvs : List Snapshot)
    (place : Place) :
    place.object? (enrich .standard event cluster hosts infraEnvs).cluster =
      (place.object? (base event cluster hosts infraEnvs).cluster).map place.tidy := by
  rw [enrich, transformed_standard rfl, tidied]
  exact object?_tidyCluster (hosts_base ..) place

/-- The document has no name where the base document has the name `s`, and the digest of
`s` as the identifier in its place exactly when `s` is not the text of a JSON object or
list. -/
theorem user_id_eq_digest_iff (event : Event) (cluster : Snapshot)
    (hosts infraEnvs : List Snapshot) (place : Place) {o : Object} {s : String}
    (hplace : place.object? (base event cluster hosts infraEnvs).cluster = some o)
    (hname : o.get? "user_name" = some (.str s)) :
    ∃ o', place.object? (enrich .standard event cluster hosts infraEnvs).cluster = some o' ∧
      o'.get? "user_name" = none ∧
      (o'.get? "user_id" = some (.str (Digest.Md5.hexText s)) ↔
        ¬ ∃ v, Json.ofText s = .ok v ∧ v.isContainer = true) := by
  have hhides := hidesUser_tidy place hname
  refine ⟨place.tidy o, ?_, hhides.name, ?_⟩
  · rw [object?_enrich, hplace, Option.map_some]
  · rw [hhides.identifier]
    simp only [← Json.held?_eq_some_iff]
    cases hheld : held? s with
    | none => simp
    | some v =>
        have hv := (Json.held?_eq_some_iff.1 hheld).2
        cases v with
        | str s => cases hv
        | _ => simp

/-- The name of a host's user. -/
theorem user_id_of_host :
    ∃ o', (Place.host 0).object? (enrich .standard ⟨"Event", .null, Object.empty⟩ Object.empty
        [Object.ofList [("user_name", .str "alice")]] []).cluster = some o' ∧
      o'.get? "user_name" = none ∧
      (o'.get? "user_id" = some (.str (Digest.Md5.hexText "alice")) ↔
        ¬ ∃ v, Json.ofText "alice" = .ok v ∧ v.isContainer = true) :=
  user_id_eq_digest_iff _ _ _ _ _ rfl rfl

/-- A list written as JSON is a name that is stored as it is. -/
theorem user_name_in_clear :
    ¬ ∀ (event : Event) (cluster : Snapshot) (hosts infraEnvs : List Snapshot) (place : Place)
      (o : Object) (s : String),
      place.object? (base event cluster hosts infraEnvs).cluster = some o →
      o.get? "user_name" = some (.str s) →
      ∃ o', place.object? (enrich .standard event cluster hosts infraEnvs).cluster = some o' ∧
        o'.get? "user_name" = none ∧
        o'.get? "user_id" = some (.str (Digest.Md5.hexText s)) := by
  intro hall
  have hheld : held? "[\"alice\"]" = some (.arr [.str "alice"]) := by decide +kernel
  have hname : (base ⟨"Event", .null, Object.empty⟩
      (Object.ofList [("user_name", .str "[\"alice\"]")]) [] []).cluster.get? "user_name" =
        some (.str "[\"alice\"]") := rfl
  obtain ⟨o', ho', -, hid⟩ := hall _ _ _ _ .cluster _ _ rfl hname
  rw [object?_enrich] at ho'
  obtain rfl := Option.some.inj ho'
  rw [(hidesUser_tidy .cluster hname).identifier, hheld] at hid
  cases hid

end ClusterEvents.EnrichedEvent
