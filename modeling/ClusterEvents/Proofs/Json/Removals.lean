import ClusterEvents.Proofs.Json.Rewrites
import ClusterEvents.Proofs.Json.Moves

/-!
# What a removal takes away

A member is removed together with all that is below it. What goes another way keeps its value,
and what the member hangs from keeps its outline: it is an object as before, or a list of as many
elements (`Removed`). An element of a list would be another matter, since the next ones move up, so
the last segment must not be an index.

`delete_removes` says this of single paths and of every element of a list, and that whoever
removes once more finds nothing left to remove, and reports what was reported before.
-/

namespace ClusterEvents.Json

variable {key segment : String} {tree tree' node node' v : Json} {location above rest : Location}
  {step : Step} {q : Place}

/-! ## One member -/

/-- The form of a value, whatever the keys of objects. -/
def outline (v : Json) : Form :=
  match form v with
  | .object _ => .object []
  | other => other

theorem map_outline_eq_of_form {v v' : Option Json} (h : v'.map form = v.map form) :
    v'.map outline = v.map outline := by
  cases v with
  | none => exact congrArg _ (Option.map_eq_none_iff.1 h)
  | some w =>
      obtain ⟨w', rfl, hform⟩ := Option.map_eq_some_iff.1 h
      simp only [Option.map_some, outline, hform]

theorem outline_onObject (f : Object → Object) (v : Json) : outline (onObject f v) = outline v := by
  cases v <;> rfl

theorem erase_of_stepOf (h : stepOf segment tree = .member key) :
    erase [segment] tree = onObject (fun o => o.erase segment) tree := by
  cases tree with
  | obj o => exact erase_obj segment o
  | arr items =>
      cases hi : index? segment with
      | none => rw [erase_eq_onObject hi]
      | some i => simp [stepOf, hi] at h
  | _ => rfl

theorem child?_erase (h : stepOf segment tree = .member key) :
    child? segment (erase [segment] tree) = none := by
  rw [erase_of_stepOf h]
  cases tree with
  | obj o => exact (Members.get?_erase ..).trans (if_pos rfl)
  | arr items =>
      cases hi : index? segment with
      | none => simp [onObject, child?, hi]
      | some i => simp [stepOf, hi] at h
  | _ => rfl

theorem value?_erase_of_ne (h : stepOf segment tree = .member key)
    (hne : step ≠ stepOf segment tree) :
    step.value? (erase [segment] tree) = step.value? tree := by
  rw [erase_of_stepOf h]
  cases tree with
  | obj o =>
      cases step with
      | member other =>
          have hother : other ≠ segment := fun heq => hne (congrArg Step.member heq)
          exact (Members.get?_erase ..).trans (if_neg hother)
      | element i => rfl
  | _ => rfl

/-! ## Further down -/

/-- Nothing is at the location any more, and nothing else is gone: what goes another way has its
value, and what is above has its outline. -/
structure Removed (location : Location) (tree tree' : Json) : Prop where
  gone : lookup? location tree' = none
  others {q : Place} : Apart (placeOf location tree) q → valueAt? q tree' = valueAt? q tree
  outlines {q : Place} : ¬ placeOf location tree <+: q →
    (valueAt? q tree').map outline = (valueAt? q tree).map outline

theorem removed_of_lookup?_none (h : lookup? location tree = none) :
    Removed location tree (erase location tree) := by
  rw [erase_of_lookup?_none h]
  exact ⟨h, fun _ => rfl, fun _ => rfl⟩

theorem removed_member (h : stepOf segment tree = .member key) :
    Removed [segment] tree (erase [segment] tree) := by
  have hother (step : Step) (q : Place) (hq : ¬ [stepOf segment tree] <+: step :: q) :
      valueAt? (step :: q) (erase [segment] tree) = valueAt? (step :: q) tree := by
    have hne : step ≠ stepOf segment tree := by
      rintro rfl
      exact hq (cons_prefix_cons_self.2 List.nil_prefix)
    rw [valueAt?, valueAt?, value?_erase_of_ne h hne]
  refine ⟨?_, fun {q} hq => ?_, fun {q} hq => ?_⟩
  · rw [lookup?, child?_erase h, Option.bind_none]
  · cases q with
    | nil => exact absurd List.nil_prefix hq.2
    | cons step q => exact hother step q hq.1
  · cases q with
    | nil => exact congrArg some (erase_of_stepOf h ▸ outline_onObject _ tree)
    | cons step q => rw [hother step q hq]

/-- What is removed from a value is removed from the tree that the value is in. -/
theorem Removed.replace (hnode : lookup? above tree = some node) (h : Removed rest node node') :
    Removed (above ++ rest) tree (replace above node' tree) := by
  have hagree := agreeOutside_replace hnode node'
  have hafter := valueAt?_replace hnode node'
  have hbefore := (valueAt?_placeOf above tree).trans hnode
  have hplace := placeOf_append hnode rest
  -- a place is below the value, or it is none that the replacement touches
  refine ⟨?_, fun {q} hq => ?_, fun {q} hq => ?_⟩
  · rw [lookup?_append, lookup?_replace hnode]
    exact h.gone
  · rw [hplace] at hq
    by_cases hbelow : placeOf above tree <+: q
    · obtain ⟨r, rfl⟩ := hbelow
      rw [valueAt?_append, valueAt?_append, hafter, hbefore]
      exact h.others (hq.imp (mt (List.prefix_append_right_inj _).2)
        (mt (List.prefix_append_right_inj _).2))
    · have habove : ¬ q <+: placeOf above tree := fun hpre =>
        hq.2 (hpre.trans (List.prefix_append _ _))
      exact hagree.valueAt?_eq ⟨hbelow, habove⟩
  · rw [hplace] at hq
    by_cases hbelow : placeOf above tree <+: q
    · obtain ⟨r, rfl⟩ := hbelow
      rw [valueAt?_append, valueAt?_append, hafter, hbefore]
      exact h.outlines (mt (List.prefix_append_right_inj _).2 hq)
    · exact map_outline_eq_of_form (hagree q hbelow)

/-- A location that does not end at an element of a list is removed. -/
theorem removed_erase
    (h : ∀ node, lookup? above tree = some node → stepOf segment node = .member segment) :
    Removed (above ++ [segment]) tree (erase (above ++ [segment]) tree) := by
  cases hnode : lookup? above tree with
  | none => exact removed_of_lookup?_none (by rw [lookup?_append, hnode, Option.bind_none])
  | some node =>
      rw [erase_append (List.cons_ne_nil _ _) hnode]
      exact (removed_member (h node hnode)).replace hnode

theorem stepOf_of_index?_none (h : index? segment = none) (tree : Json) :
    stepOf segment tree = .member segment := by
  cases tree with
  | arr items => rw [stepOf, h]
  | _ => rfl

theorem removed_erase_of_getLast? (hne : location ≠ [])
    (hlast : ∀ segment ∈ location.getLast?, index? segment = none) (tree : Json) :
    Removed location tree (erase location tree) := by
  obtain ⟨above, segment, rfl⟩ := (List.eq_nil_or_concat' location).resolve_left hne
  have hindex : index? segment = none := hlast segment (by simp)
  exact removed_erase fun node _ => stepOf_of_index?_none hindex node

/-! ## In every element of a list -/

theorem editEach_of_list {parent : String} {items : List Json}
    (hnode : lookup? (Location.ofPath parent) tree = some node) (hitems : unpack node = .arr items)
    (edit : Json → Edited) :
    editEach parent edit tree =
      (replace (Location.ofPath parent) (.arr (editItems edit items).1) tree,
        (editItems edit items).2) :=
  (editEach_eq_iff hnode hitems).2 ⟨rfl, rfl⟩

theorem editEach_of_not_list {parent : String}
    (hnode : lookup? (Location.ofPath parent) tree = some node)
    (hother : ∀ items, unpack node ≠ .arr items) (edit : Json → Edited) :
    editEach parent edit tree =
      (replace (Location.ofPath parent) (unpack node) tree, [.notAList parent]) := by
  simp only [editEach, hnode]

/-- An edit that finds nothing more to do on its own results does not on those of a list either. -/
theorem editItems_editItems {edit : Json → Edited}
    (hedit : ∀ item, edit (edit item).1 = edit item) (items : List Json) :
    editItems edit (editItems edit items).1 = editItems edit items := by
  refine Prod.ext ?_ ?_
  · simp only [editItems_fst, List.map_map, Function.comp_def, hedit]
  · simp only [editItems_snd, editItems_fst, List.flatMap_map, hedit]

theorem editEach_editEach (parent : String) {edit : Json → Edited}
    (hedit : ∀ item, edit (edit item).1 = edit item) (tree : Json) :
    editEach parent edit (editEach parent edit tree).1 = editEach parent edit tree := by
  cases hnode : lookup? (Location.ofPath parent) tree with
  | none => simp [editEach, hnode]
  | some node =>
      by_cases hitems : ∃ items, unpack node = .arr items
      · obtain ⟨items, hitems⟩ := hitems
        rw [editEach_of_list hnode hitems, editEach_of_list (lookup?_replace hnode) rfl,
          editItems_editItems hedit, replace_replace _ hnode]
      · have hother : ∀ items, unpack node ≠ .arr items := not_exists.1 hitems
        have hagain : ∀ items, unpack (unpack node) ≠ .arr items := by
          rwa [unpack_unpack]
        rw [editEach_of_not_list hnode hother,
          editEach_of_not_list (lookup?_replace hnode) hagain, unpack_unpack,
          replace_replace _ hnode]

/-! ## Removing what a path addresses -/

/-- The last segment of the location of a path, in every element for a path into a list. -/
def Selector.lastSegment? : Selector → Option String
  | .single path => (Location.ofPath path).getLast?
  | .each _ child => (Location.ofPath child).getLast?

/-- What a removal makes of a tree, and what is reported. -/
inductive Removes (tree : Json) : Selector → Edited → Prop
  | single {path : String} {tree' : Json} (h : Removed (Location.ofPath path) tree tree') :
      Removes tree (.single path) (tree', [])
  /-- There is no list to go into. -/
  | missing {parent child : String} (hnode : lookup? (Location.ofPath parent) tree = none) :
      Removes tree (.each parent child) (tree, [])
  /-- Every element has been removed from, and a text that holds the list has become the list. -/
  | each {parent child : String} {node tree' : Json} {items items' : List Json}
      (hnode : lookup? (Location.ofPath parent) tree = some node)
      (hitems : unpack node = .arr items)
      (helements : List.Forall₂ (Removed (Location.ofPath child)) items items')
      (hlist : lookup? (Location.ofPath parent) tree' = some (.arr items'))
      (houtside : AgreeOutside (placeOf (Location.ofPath parent) tree) tree tree') :
      Removes tree (.each parent child) (tree', [])
  /-- What is no list has been unpacked, if it can be, and reported. -/
  | notAList {parent child : String} {node tree' : Json}
      (hnode : lookup? (Location.ofPath parent) tree = some node)
      (hother : ∀ items, unpack node ≠ .arr items)
      (hunpacked : lookup? (Location.ofPath parent) tree' = some (unpack node))
      (houtside : AgreeOutside (placeOf (Location.ofPath parent) tree) tree tree') :
      Removes tree (.each parent child) (tree', [.notAList parent])

theorem removes_each {child : String}
    (hlast : ∀ segment ∈ (Location.ofPath child).getLast?, index? segment = none)
    (parent : String) (tree : Json) :
    Removes tree (.each parent child)
      (editEach parent (fun item => (erase (Location.ofPath child) item, [])) tree) := by
  cases hnode : lookup? (Location.ofPath parent) tree with
  | none =>
      rw [editEach, hnode]
      exact .missing hnode
  | some node =>
      by_cases hitems : ∃ items, unpack node = .arr items
      · obtain ⟨items, hitems⟩ := hitems
        have helements : List.Forall₂ (Removed (Location.ofPath child)) items
            (items.map (erase (Location.ofPath child))) :=
          List.forall₂_map_right_iff.2 (List.forall₂_same.2 fun item _ =>
            removed_erase_of_getLast? (ofPath_ne_nil child) hlast item)
        have hreports : items.flatMap (fun _ => ([] : List EditError)) = [] := by simp
        rw [editEach_of_list hnode hitems, editItems_fst, editItems_snd, hreports]
        exact .each hnode hitems helements (lookup?_replace hnode) (agreeOutside_replace hnode _)
      · have hother : ∀ items, unpack node ≠ .arr items := not_exists.1 hitems
        rw [editEach_of_not_list hnode hother]
        exact .notAList hnode hother (lookup?_replace hnode) (agreeOutside_replace hnode _)

theorem delete_singleton (path : String) (tree : Json) :
    delete [path] tree = deletePath path tree :=
  editAll_singleton deletePath path tree

/-- What a path addresses is removed, and nothing else, unless the path ends at an index; and when
it is removed once more, nothing changes, and the same is reported. -/
theorem delete_removes {path : String} {selector : Selector}
    (hpath : Selector.ofPath path = .ok selector)
    (hlast : ∀ segment ∈ selector.lastSegment?, index? segment = none) (tree : Json) :
    Removes tree selector (delete [path] tree) ∧
      delete [path] (delete [path] tree).1 = delete [path] tree := by
  cases selector with
  | single single =>
      have hdelete (tree : Json) : delete [path] tree = (erase (Location.ofPath single) tree, []) := by
        rw [delete_singleton, deletePath, hpath]
      have hremoved := removed_erase_of_getLast? (ofPath_ne_nil single) hlast tree
      rw [hdelete, hdelete, erase_of_lookup?_none hremoved.gone]
      exact ⟨.single hremoved, rfl⟩
  | each parent child =>
      have hdelete (tree : Json) : delete [path] tree =
          editEach parent (fun item => (erase (Location.ofPath child) item, [])) tree := by
        rw [delete_singleton, deletePath, hpath]
      have hagain (item : Json) : erase (Location.ofPath child) (erase (Location.ofPath child) item) =
          erase (Location.ofPath child) item :=
        erase_of_lookup?_none (removed_erase_of_getLast? (ofPath_ne_nil child) hlast item).gone
      rw [hdelete, hdelete]
      exact ⟨removes_each hlast parent tree, editEach_editEach parent (by simp [hagain]) tree⟩

/-- A member is removed from the one element that has it, in a list that a text holds. -/
theorem delete_removes_in_text :
    (∀ segment ∈ (Selector.each "hosts" "a.k").lastSegment?, index? segment = none) ∧
      Removes (.obj (Object.ofList [("hosts", .str "[\x7b\"a\":\x7b\"k\":1\x7d\x7d,2]")]))
        (.each "hosts" "a.k") (delete ["hosts[*].a.k"]
          (.obj (Object.ofList [("hosts", .str "[\x7b\"a\":\x7b\"k\":1\x7d\x7d,2]")]))) ∧
      delete ["hosts[*].a.k"]
          (.obj (Object.ofList [("hosts", .str "[\x7b\"a\":\x7b\"k\":1\x7d\x7d,2]")])) =
        (.obj (Object.ofList [("hosts",
          .arr [.obj (Object.ofList [("a", .obj Object.empty)]), .int 2])]), []) := by
  have hlast : ∀ segment ∈ (Selector.each "hosts" "a.k").lastSegment?, index? segment = none := by
    decide
  exact ⟨hlast, (delete_removes rfl hlast _).1, by decide +kernel⟩

end ClusterEvents.Json
