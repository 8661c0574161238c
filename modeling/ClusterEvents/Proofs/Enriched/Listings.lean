import Mathlib.Data.List.Forall2
import ClusterEvents.Enriched.Rules
import ClusterEvents.Proofs.Json.RoundTrip

/-!
# What a list of entries keeps

A map becomes a list of its values, or of its entries, in the ascending order of its keys. In the
list of entries an object takes up its key as its identifier, and any other value stands beside
its key. So the two are told apart by whether there is an identifier, whatever other fields an
object has, and `entryIn?` gets the entry back out of an element. As long as no object in the map
has an identifier of its own, which would be lost, the map is got back from the list, and no other
map makes the same list: `entriesOf_lossless`.
-/

namespace ClusterEvents

namespace Members

variable {b : Option String}

theorem above_of_mem_keys {m : Members b} {key : String} (h : key ∈ m.keys) : Above b key := by
  induction m using induct with
  | nil b => cases h
  | cons b k above v rest ih =>
      rcases List.mem_cons.1 h with rfl | h
      · exact above
      · exact above.trans (ih h)

theorem pairwise_keys (m : Members b) : m.keys.Pairwise (· < ·) := by
  induction m using induct with
  | nil b => exact .nil
  | cons b k above v rest ih => exact List.pairwise_cons.2 ⟨fun _ => above_of_mem_keys, ih⟩

theorem mem_keys_iff {m : Members b} {key : String} : key ∈ m.keys ↔ (m.get? key).isSome := by
  simp only [keys, List.mem_map, Prod.exists, exists_and_right, exists_eq_right, mem_toList_iff,
    Option.isSome_iff_exists]

end Members

namespace FieldRules

/-- The keys of a map, in ascending order of their bytes. -/
structure KeysInOrder (m : Object) (keys : List String) : Prop where
  mem_iff (key : String) : key ∈ keys ↔ (m.get? key).isSome
  ascending : keys.Pairwise fun a b => Bytes.ofString a < Bytes.ofString b

/-- No object in the map has an identifier of its own. -/
def LacksIds (m : Object) : Prop :=
  ∀ key fields, m.get? key = some (.obj fields) → fields.get? "id" = none

/-- The entry that an element of a list stands for. An element with an identifier is an object
that stood under it; any other element tells its key and its value. -/
def entryIn? : Json → Option (String × Json)
  | .obj fields =>
    match fields.get? "id" with
    | some id => do some (← id.text?, .obj (fields.erase "id"))
    | none => do some (← (← fields.get? "key").text?, ← fields.get? "value")
  | _ => none

/-- The map whose entries are in a list. -/
def mapIn? (listed : Json) : Option Object := do
  some (Object.ofList (← (← listed.items?).mapM entryIn?))

variable {m : Object} {key : String} {v : Json}

theorem keysInOrder_keys (m : Object) : KeysInOrder m m.keys where
  mem_iff _ := Members.mem_keys_iff
  ascending := (Members.pairwise_keys m).imp fun {a b} h => (Bytes.ofString_lt_ofString_iff a b).2 h

/-! ## One entry -/

theorem exists_fields_entry (key : String) (v : Json) : ∃ fields, entry key v = .obj fields := by
  cases v <;> exact ⟨_, rfl⟩

theorem entryIn?_entry (key : String) (h : ∀ fields, v = .obj fields → fields.get? "id" = none) :
    entryIn? (entry key v) = some (key, v) := by
  have hbeside : ∀ v : Json, entryIn?
      (.obj ((Object.empty.insert "key" (.str key)).insert "value" v)) = some (key, v) := by
    intro v
    simp [entryIn?, Members.get?_insert, Object.empty, Json.text?]
  cases v with
  | obj fields =>
      have hid : (fields.insert "id" (.str key)).get? "id" = some (.str key) :=
        (Members.get?_insert ..).trans (if_pos rfl)
      have herase := Members.erase_insert (h fields rfl) (.str key)
      simp only [entry, entryIn?, hid, herase]
      rfl
  | _ => exact hbeside _

/-! ## All entries -/

theorem LacksIds.of_mem (h : LacksIds m) {member : String × Json} (hmember : member ∈ m.toList)
    (fields : Object) (hfields : member.2 = .obj fields) : fields.get? "id" = none :=
  h member.1 fields (hfields ▸ Members.mem_toList_iff.1 hmember)

theorem mapM_entryIn? {members : List (String × Json)}
    (h : ∀ member ∈ members, ∀ fields, member.2 = .obj fields → fields.get? "id" = none) :
    (members.map fun (key, v) => entry key v).mapM entryIn? = some members := by
  induction members with
  | nil => rfl
  | cons member members ih =>
      obtain ⟨hfirst, hrest⟩ := List.forall_mem_cons.1 h
      rw [List.map_cons, List.mapM_cons, entryIn?_entry member.1 hfirst, ih hrest]
      rfl

theorem lacksIds_iff :
    LacksIds m ↔ ∀ member ∈ m.toList, ∀ fields ∈ member.2.object?, fields.get? "id" = none := by
  constructor
  · intro h member hmember fields hfields
    exact h.of_mem hmember fields (Json.object?_eq_some_iff.1 hfields)
  · intro h key fields hfields
    exact h (key, .obj fields) (Members.mem_toList_iff.2 hfields) fields rfl

instance : Decidable (LacksIds m) :=
  decidable_of_iff _ lacksIds_iff.symm

/-- The map is got back from the list of its entries. -/
theorem mapIn?_entriesOf (h : LacksIds m) :
    mapIn? (.arr (m.toList.map fun (key, v) => entry key v)) = some m := by
  have hentries := mapM_entryIn? fun member hmember => h.of_mem hmember
  have hmap : Object.ofList m.toList = m := Members.foldl_insert_toList m
  simp only [mapIn?, Json.items?, hentries, hmap, Option.bind_eq_bind, Option.bind_some]

theorem eq_of_entriesOf_eq {m' : Object} (h : LacksIds m) (h' : LacksIds m')
    (hlisted : entriesOf (.obj m') = entriesOf (.obj m)) : m' = m := by
  have hitems := Json.arr.inj (Except.ok.inj hlisted)
  have hback := mapIn?_entriesOf h'
  rw [hitems, mapIn?_entriesOf h] at hback
  exact (Option.some.inj hback).symm

/-- Lists made of a map follow its keys. The list of values has the value of each key. As long as
no object in the map has an identifier, the list of entries has an object for each key that stands
for the entry of that key, and it stands for the whole map and for no other. -/
theorem entriesOf_lossless (m : Object) :
    ∃ keys, KeysInOrder m keys ∧
      (∃ values, valuesOf (.obj m) = .ok (.arr values) ∧
        List.Forall₂ (fun key v => m.get? key = some v) keys values) ∧
      (LacksIds m → ∃ items, entriesOf (.obj m) = .ok (.arr items) ∧
        List.Forall₂ (fun key item => ∃ fields v, item = .obj fields ∧ m.get? key = some v ∧
          entryIn? item = some (key, v)) keys items ∧
        mapIn? (.arr items) = some m ∧
        ∀ m', LacksIds m' → entriesOf (.obj m') = .ok (.arr items) → m' = m) := by
  refine ⟨m.keys, keysInOrder_keys m, ⟨m.values, rfl, ?_⟩, fun h => ⟨_, rfl, ?_, ?_, ?_⟩⟩
  · rw [Members.keys, Members.values, List.forall₂_map_left_iff, List.forall₂_map_right_iff,
      List.forall₂_same]
    exact fun member hmember => Members.mem_toList_iff.1 hmember
  · rw [Members.keys, List.forall₂_map_left_iff, List.forall₂_map_right_iff, List.forall₂_same]
    intro member hmember
    obtain ⟨fields, hfields⟩ := exists_fields_entry member.1 member.2
    exact ⟨fields, member.2, hfields, Members.mem_toList_iff.1 hmember,
      entryIn?_entry member.1 (h.of_mem hmember)⟩
  · exact mapIn?_entriesOf h
  · exact fun m' h' hlisted => eq_of_entriesOf_eq h h' hlisted

/-- A map in which an object has the fields that a value without identifier would get, and in which
one key is that of identifiers. -/
def imitating : Object :=
  Object.ofList [
    ("b", .obj (Object.ofList [("key", .str "a"), ("value", .int 1)])),
    ("a", .int 1),
    ("id", .arr [.obj (Object.ofList [("id", .null)])])]

theorem entriesOf_lossless_imitating :
    LacksIds imitating ∧ ∃ items, entriesOf (.obj imitating) = .ok (.arr items) ∧
      mapIn? (.arr items) = some imitating ∧
      ∀ m', LacksIds m' → entriesOf (.obj m') = .ok (.arr items) → m' = imitating := by
  have h : LacksIds imitating := by decide +kernel
  obtain ⟨keys, -, -, hlossless⟩ := entriesOf_lossless imitating
  obtain ⟨items, hitems, -, hback, honly⟩ := hlossless h
  exact ⟨h, items, hitems, hback, honly⟩

end FieldRules

end ClusterEvents
