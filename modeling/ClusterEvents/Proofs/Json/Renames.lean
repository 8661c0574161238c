import ClusterEvents.Proofs.Json.Removals
import ClusterEvents.Proofs.Json.Updates

/-!
# Moves between unrelated members

A move writes the value at the target and removes it from the source then. If neither location leads
through the other, and no list is on the way, these two changes stay clear of each other: the value is at
the target, nothing is at the source, and what goes another way than both has its value (`Moved`).

In the elements of a list each value is moved by itself. `rename_moves` says which of three outcomes
there is for a single value and for each element: nothing to move, moved, or refused and left where it was.
-/

namespace ClusterEvents.Json

variable {a b segment : String} {tree tree' below v w : Json} {location source target rest : Location}
  {q : Place}

/-! ## Ways without lists -/

/-- No list is on the way to a location, which itself may lead to one. -/
def AvoidsLists : Location → Json → Prop
  | [], _ => True
  | segment :: rest, tree =>
    (∀ items, tree ≠ .arr items) ∧ ∀ below ∈ child? segment tree, AvoidsLists rest below

theorem avoidsLists_null (location : Location) : AvoidsLists location .null := by
  cases location with
  | nil => trivial
  | cons segment location => exact ⟨fun _ => Json.noConfusion, fun _ h => by cases h⟩

theorem AvoidsLists.getD (h : AvoidsLists (segment :: rest) tree) :
    AvoidsLists rest ((child? segment tree).getD .null) := by
  cases hchild : child? segment tree with
  | none => exact avoidsLists_null rest
  | some below => exact h.2 below hchild

theorem sameSlot_iff_of_not_list (h : ∀ items, tree ≠ .arr items) : SameSlot a b tree ↔ a = b := by
  cases tree with
  | arr items => exact absurd rfl (h items)
  | _ => rfl

theorem stepOf_of_not_list (h : ∀ items, tree ≠ .arr items) (segment : String) :
    stepOf segment tree = .member segment := by
  cases tree with
  | arr items => exact absurd rfl (h items)
  | _ => rfl

/-- On such a way every segment is a key. -/
theorem AvoidsLists.placeOf_eq (h : AvoidsLists location tree) :
    placeOf location tree = location.map .member := by
  induction location generalizing tree with
  | nil => rfl
  | cons segment location ih =>
      rw [placeOf, stepOf_of_not_list h.1, ih h.getD, List.map_cons]

theorem AvoidsLists.not_list (h : AvoidsLists (location ++ rest) tree) (hrest : rest ≠ [])
    (hv : lookup? location tree = some v) (items : List Json) : v ≠ .arr items := by
  induction location generalizing tree with
  | nil =>
      obtain rfl := Option.some.inj hv
      obtain ⟨segment, rest, rfl⟩ := List.exists_cons_of_ne_nil hrest
      exact h.1 items
  | cons segment location ih =>
      obtain ⟨below, hchild, hbelow⟩ := Option.bind_eq_some_iff.1 hv
      exact ih (h.2 below hchild) hbelow

theorem WrittenAt.child?_of_ne (h : WrittenAt b v tree tree') (hlist : ∀ items, tree ≠ .arr items)
    (hab : a ≠ b) : Json.child? a tree' = Json.child? a tree := by
  cases h with
  | element => exact absurd rfl (hlist _)
  | _ => exact (Members.get?_insert ..).trans (if_neg hab)

theorem WrittenAt.not_list (h : WrittenAt b v tree tree') (hlist : ∀ items, tree ≠ .arr items)
    (items : List Json) : tree' ≠ .arr items := by
  cases h with
  | element => exact absurd rfl (hlist _)
  | _ => exact Json.noConfusion

/-- A writing that does not reach the way puts no list on it. -/
theorem AvoidsLists.write? (hsource : AvoidsLists source tree) (htarget : AvoidsLists target tree)
    (hpre : ¬ target <+: source) (h : write? target w tree = some tree') :
    AvoidsLists source tree' := by
  induction target generalizing source tree tree' with
  | nil => exact absurd List.nil_prefix hpre
  | cons b target ih =>
      cases source with
      | nil => trivial
      | cons a source =>
          obtain ⟨v, hwritten, hv⟩ := exists_writtenAt_getD h
          refine ⟨hwritten.not_list hsource.1, fun below hbelow => ?_⟩
          by_cases hab : a = b
          · subst hab
            obtain rfl := Option.some.inj (hwritten.child?.symm.trans hbelow)
            have hpre' : ¬ target <+: source := fun hpre' =>
              hpre (List.cons_prefix_cons.2 ⟨rfl, hpre'⟩)
            exact ih hsource.getD htarget.getD hpre' hv
          · rw [hwritten.child?_of_ne hsource.1 hab] at hbelow
            exact hsource.2 below hbelow

/-! ## One value -/

/-- Where nothing is in the way of either, nothing is lost. -/
theorem not_loses_of_apart (hsource : AvoidsLists source tree) (h : Apart source target) :
    ¬ Loses w source target tree := by
  intro hloses
  induction hloses with
  | above => exact h.2 List.nil_prefix
  | member key rest => exact h.1 (List.cons_prefix_cons.2 ⟨rfl, List.nil_prefix⟩)
  | element => exact hsource.1 _ rfl
  | @inside a b source target tree child _ hsame hchild _ ih =>
      obtain rfl := (sameSlot_iff_of_not_list hsource.1).1 hsame
      refine ih (hsource.2 child hchild) (h.imp ?_ ?_)
      · exact mt fun hpre => List.cons_prefix_cons.2 ⟨rfl, hpre⟩
      · exact mt fun hpre => List.cons_prefix_cons.2 ⟨rfl, hpre⟩

/-- A value has been moved, unpacked, and nothing else has. -/
structure Moved (source target : Location) (v tree tree' : Json) : Prop where
  arrived : lookup? target tree' = some (unpack v)
  gone : lookup? source tree' = none
  others {q : Place} : Apart (source.map .member) q → Apart (target.map .member) q →
    valueAt? q tree' = valueAt? q tree

theorem moved_erase (hne : source ≠ []) (hv : lookup? source tree = some v)
    (hsource : AvoidsLists source tree) (htarget : AvoidsLists target tree)
    (hapart : Apart source target) (hwrite : write? target (unpack v) tree = some tree') :
    Moved source target v tree (erase source tree') := by
  have hway : AvoidsLists source tree' := hsource.write? htarget hapart.2 hwrite
  obtain ⟨above, key, rfl⟩ := (List.eq_nil_or_concat' source).resolve_left hne
  have hremoved : Removed (above ++ [key]) tree' (erase (above ++ [key]) tree') :=
    removed_erase fun node hnode =>
      stepOf_of_not_list (hway.not_list (List.cons_ne_nil _ _) hnode) key
  refine ⟨?_, hremoved.gone, fun {q} hq hq' => ?_⟩
  · exact (lookup?_erase_write?_iff hne hv hwrite).2 (not_loses_of_apart hsource hapart)
  · rw [← hway.placeOf_eq] at hq
    rw [← htarget.placeOf_eq] at hq'
    rw [hremoved.others hq, valueAt?_write? hwrite hq'.2 hq'.1]

/-- What moving a value makes of a tree, and what is reported. -/
inductive Moves (label : String) (source target : Location) (tree : Json) : Edited → Prop
  /-- There is no value. -/
  | missing (hv : lookup? source tree = none) : Moves label source target tree (tree, [])
  | moved {v tree' : Json} (hv : lookup? source tree = some v)
      (hset : ∀ fault, set target (unpack v) tree ≠ .error fault)
      (h : AvoidsLists source tree → AvoidsLists target tree → Moved source target v tree tree') :
      Moves label source target tree (tree', [])
  /-- The value cannot be written, so it stays where it was. -/
  | refused {v : Json} {fault : SetFault} (hv : lookup? source tree = some v)
      (hset : set target (unpack v) tree = .error fault) :
      Moves label source target tree (tree, [.unsettable label fault])

theorem moves_moveValue {source target : String}
    (hapart : Apart (Location.ofPath source) (Location.ofPath target)) (tree : Json) :
    Moves target (Location.ofPath source) (Location.ofPath target) tree
      (moveValue source target tree) := by
  have hne : source ≠ target := by
    rintro rfl
    exact hapart.1 List.prefix_rfl
  rw [moveValue, if_neg hne]
  cases hv : lookup? (Location.ofPath source) tree with
  | none => exact .missing hv
  | some v =>
      dsimp only
      cases hset : set (Location.ofPath target) (unpack v) tree with
      | error fault => exact .refused hv hset
      | ok tree' =>
          refine .moved hv (by simp [hset]) fun hsource htarget => ?_
          exact moved_erase (ofPath_ne_nil source) hv hsource htarget hapart (write?_of_set hset)

/-! ## One value in every element -/

/-- What moving a value in every element of a list makes of the tree that the list is in: each
element is edited by itself, and all that happens elsewhere is that a text in the place of the list
becomes the list. -/
structure MovesEach (label : String) (parent source target : Location) (items : List Json)
    (tree : Json) (results : List Edited) (edited : Edited) : Prop where
  elements : List.Forall₂ (Moves label source target) items results
  list : lookup? parent edited.1 = some (.arr (results.map Prod.fst))
  outside : AgreeOutside (placeOf parent tree) tree edited.1
  reports : edited.2 = results.flatMap Prod.snd

theorem movesEach_editEach {parent source target : String} {node : Json} {items : List Json}
    (hapart : Apart (Location.ofPath source) (Location.ofPath target))
    (hnode : lookup? (Location.ofPath parent) tree = some node) (hitems : unpack node = .arr items) :
    MovesEach target (Location.ofPath parent) (Location.ofPath source) (Location.ofPath target) items
      tree (items.map (moveValue source target))
      (editEach parent (moveValue source target) tree) := by
  rw [editEach_of_list hnode hitems, editItems_fst, editItems_snd]
  refine ⟨?_, ?_, agreeOutside_replace hnode _, ?_⟩
  · exact List.forall₂_map_right_iff.2 (List.forall₂_same.2 fun item _ => moves_moveValue hapart item)
  · rw [List.map_map]
    exact lookup?_replace hnode
  · rw [List.flatMap_map]

/-! ## Renaming -/

/-- Of two paths that go different ways, the value at the first is moved to the second, or it is
refused there and stays. For paths into the same list, or into a text that holds one, this is what
happens in every element. -/
theorem rename_moves :
    (∀ source target tree, Selector.ofPath source = .ok (.single source) →
      Selector.ofPath target = .ok (.single target) →
      Apart (Location.ofPath source) (Location.ofPath target) →
      Moves target (Location.ofPath source) (Location.ofPath target) tree
        (rename [(source, target)] tree)) ∧
    ∀ source target parent child child' tree node items,
      Selector.ofPath source = .ok (.each parent child) →
      Selector.ofPath target = .ok (.each parent child') →
      Apart (Location.ofPath child) (Location.ofPath child') →
      lookup? (Location.ofPath parent) tree = some node →
      (node = .arr items ∨ ∃ s, node = .str s ∧ held? s = some (.arr items)) →
      ∃ results, MovesEach child' (Location.ofPath parent) (Location.ofPath child)
        (Location.ofPath child') items tree results (rename [(source, target)] tree) := by
  refine ⟨fun source target tree hsource htarget hapart => ?_, ?_⟩
  · rw [rename_singleton hsource htarget]
    exact moves_moveValue hapart tree
  · intro source target parent child child' tree node items hsource htarget hapart hnode hitems
    have hrename : rename [(source, target)] tree =
        editEach parent (moveValue child child') tree := by
      simp [rename, editAll, renamePair, hsource, htarget]
    rw [hrename]
    exact ⟨_, movesEach_editEach hapart hnode (unpack_eq_arr_iff.2 hitems)⟩

/-- The first value can be moved, a number is in the way of the second, and there is no third. -/
def users : List Json := [
  .obj (Object.ofList [("name", .str "[]")]),
  .obj (Object.ofList [("name", .str "b"), ("id", .int 1)]),
  .obj Object.empty]

theorem rename_moves_users :
    Moves "all.users" ["users"] ["all", "users"] (.obj (Object.ofList [("users", .arr users)]))
        (rename [("users", "all.users")] (.obj (Object.ofList [("users", .arr users)]))) ∧
      (∃ results, MovesEach "id.hash" ["users"] ["name"] ["id", "hash"] users
        (.obj (Object.ofList [("users", .arr users)])) results
        (rename [("users[*].name", "users[*].id.hash")]
          (.obj (Object.ofList [("users", .arr users)])))) ∧
      rename [("users[*].name", "users[*].id.hash")] (.obj (Object.ofList [("users", .arr users)])) =
        (.obj (Object.ofList [("users", .arr [
          .obj (Object.ofList [("id", .obj (Object.ofList [("hash", .arr [])]))]),
          .obj (Object.ofList [("name", .str "b"), ("id", .int 1)]),
          .obj Object.empty])]), [.unsettable "id.hash" .blocked]) := by
  refine ⟨?_, ?_, by decide +kernel⟩
  · exact rename_moves.1 "users" "all.users" _ rfl rfl ⟨by decide, by decide⟩
  · exact rename_moves.2 _ _ "users" "name" "id.hash" _ (.arr users) users rfl rfl
      ⟨by decide, by decide⟩ rfl (.inl rfl)

end ClusterEvents.Json
