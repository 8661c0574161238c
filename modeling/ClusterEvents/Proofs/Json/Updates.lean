import ClusterEvents.Proofs.Json.Frames
import ClusterEvents.Proofs.Json.Writes

/-!
# Writing as an update

Before a value is written the way is tried. `canSet_eq_isSome_write?` says that the trial and the
writing always agree, so `set` is refused for an empty segment or because the way is blocked, and
for no other reason (`set_eq`).

A writing in place changes the tree as it goes, which `walk` tells step by step. It makes objects
only where from then on nothing can stop it, so a walk that gets stuck has changed nothing, and the
trial in front of it would not even be needed for that (`walk_eq`).

What has been written is found, what is written over it counts, what is already there may be
written again, and all else keeps its value: `set_lawful`.
-/

namespace ClusterEvents.Json

variable {segment : String} {tree tree' v w : Json} {location rest : Location} {step : Step}
  {q : Place}

/-! ## The trial -/

theorem write?_null (location : Location) (w : Json) :
    write? location w .null = some (nest location w) := by
  cases location <;> rfl

/-- A way is found free exactly when writing gets through. -/
theorem canSet_eq_isSome_write? (location : Location) (w tree : Json) :
    canSet location tree = (write? location w tree).isSome := by
  induction location generalizing tree with
  | nil => rfl
  | cons segment location ih =>
      cases tree with
      | obj o =>
          rw [canSet, write?]
          cases o.get? segment with
          | none => rfl
          | some below => simp [ih]
      | arr items =>
          rw [canSet, write?]
          cases index? segment with
          | none => rfl
          | some i =>
              rw [Option.bind_some]
              cases hget : items[i]? with
              | some below => simp [ih, hget]
              | none =>
                  -- an element may be written behind the last one, and nothing below it
                  simp only [hget]
                  by_cases hend : i = items.length <;> cases location <;> simp [hend]
      | _ => rfl

/-- What is set is what is written; otherwise a segment is empty or the way is blocked. -/
theorem set_eq (location : Location) (w tree : Json) :
    set location w tree =
      if location.any String.isEmpty then .error .emptySegment
      else match write? location w tree with
        | some tree' => .ok tree'
        | none => .error .blocked := by
  rw [set, canSet_eq_isSome_write? location w tree]
  cases write? location w tree <;> rfl

theorem set_eq_ok_iff : set location w tree = .ok tree' ↔
    location.any String.isEmpty = false ∧ write? location w tree = some tree' := by
  rw [set_eq]
  cases location.any String.isEmpty with
  | true => simp
  | false => cases write? location w tree <;> simp

/-! ## Writing in place -/

/-- A null becomes an object, which can be written into. -/
def opened : Json → Json
  | .null => .obj Object.empty
  | v => v

/-- The tree as a writing in place leaves it, and why it stopped, if it did not reach the end. -/
def walk : Location → Json → Json → Json × Option SetFault
  | [], new, _ => (new, none)
  | segment :: rest, new, tree =>
    match opened tree with
    | .obj o =>
      let (v, fault) := walk rest new ((o.get? segment).getD (.obj Object.empty))
      (.obj (o.insert segment v), fault)
    | .arr items =>
      match index? segment with
      | none => (.arr items, some .outOfRange)
      | some i =>
        match items[i]? with
        | some below =>
          let (v, fault) := walk rest new below
          (.arr (items.set i v), fault)
        | none =>
          if i = items.length ∧ rest = [] then (.arr (items ++ [new]), none)
          else (.arr items, some .outOfRange)
    | other => (other, some .blocked)

/-- Writes in place once the way has been tried. -/
def writeInPlace (location : Location) (new tree : Json) : Json × Option SetFault :=
  if location.any String.isEmpty then (tree, some .emptySegment)
  else if canSet location tree then walk location new tree
  else (tree, some .blocked)

theorem walk_obj (segment : String) (rest : Location) (w : Json) (o : Object) :
    walk (segment :: rest) w (.obj o) =
      let (v, fault) := walk rest w ((o.get? segment).getD (.obj Object.empty))
      (.obj (o.insert segment v), fault) := rfl

theorem walk_empty (location : Location) (w : Json) :
    walk location w (.obj Object.empty) = (nest location w, none) := by
  induction location with
  | nil => rfl
  | cons segment location ih =>
      have hget : Object.empty.get? segment = none := rfl
      rw [walk_obj, hget, Option.getD_none, ih]
      rfl

/-- A walk that reaches the end has written the value, and one that gets stuck has changed
nothing. -/
theorem walk_eq (location : Location) (w tree : Json) :
    (walk location w tree).1 = (write? location w tree).getD tree ∧
      ((walk location w tree).2 = none ↔ (write? location w tree).isSome) := by
  induction location generalizing tree with
  | nil => exact ⟨rfl, iff_of_true rfl rfl⟩
  | cons segment location ih =>
      cases tree with
      | null =>
          -- a null is opened, and then walked as any other empty object
          have hwalk : walk (segment :: location) w .null = (nest (segment :: location) w, none) :=
            walk_empty (segment :: location) w
          rw [hwalk]
          exact ⟨rfl, iff_of_true rfl rfl⟩
      | obj o =>
          rw [walk_obj, write?]
          cases hget : o.get? segment with
          | none =>
              rw [Option.getD_none, walk_empty]
              exact ⟨rfl, iff_of_true rfl rfl⟩
          | some below =>
              obtain ⟨hbelow, hfault⟩ := ih below
              simp only [Option.getD_some, hbelow, hfault]
              cases write? location w below with
              | none => simp [Members.insert_eq_self hget]
              | some v => simp
      | arr items =>
          cases hi : index? segment with
          | none => simp [walk, opened, write?, hi]
          | some i =>
              simp only [walk, opened, write?, hi, Option.bind_some]
              cases hget : items[i]? with
              | none =>
                  by_cases hend : i = items.length ∧ location = [] <;> simp [hend]
              | some below =>
                  obtain ⟨hbelow, hfault⟩ := ih below
                  obtain ⟨hlt, rfl⟩ := List.getElem?_eq_some_iff.1 hget
                  simp only [hbelow, hfault]
                  cases write? location w items[i] <;> simp
      | _ => simp [walk, opened, write?]

/-- In place, a refused writing leaves the tree as it was, and any other does what `set` does. -/
theorem writeInPlace_eq (location : Location) (w tree : Json) :
    writeInPlace location w tree =
      match set location w tree with
      | .ok tree' => (tree', none)
      | .error fault => (tree, some fault) := by
  rw [writeInPlace, set_eq, canSet_eq_isSome_write? location w tree]
  cases hempty : location.any String.isEmpty with
  | true => rfl
  | false =>
      cases hwrite : write? location w tree with
      | none => rfl
      | some tree' =>
          obtain ⟨htree, hfault⟩ := walk_eq location w tree
          rw [hwrite] at htree hfault
          exact Prod.ext htree (hfault.2 rfl)

/-! ## Writing twice -/

theorem replace_nest (location : Location) (v w : Json) :
    replace location w (nest location v) = nest location w := by
  induction location with
  | nil => rfl
  | cons segment location ih =>
      have hchild : child? segment (nest (segment :: location) v) = some (nest location v) :=
        child?_insert ..
      rw [replace_cons hchild, ih]
      exact congrArg Json.obj (Members.insert_insert ..)

/-- What another value would have been written into is what has been written, with that value in
its place. -/
theorem write?_of_write? (h : write? location v tree = some tree') (w : Json) :
    write? location w tree = some (replace location w tree') := by
  induction location generalizing tree tree' with
  | nil => rfl
  | cons segment location ih =>
      cases tree with
      | null =>
          obtain rfl := Option.some.inj h
          rw [replace_nest, write?_null]
      | obj o =>
          rw [write?] at h ⊢
          cases hget : o.get? segment with
          | none =>
              rw [hget] at h
              obtain rfl := Option.some.inj h
              rw [replace_cons (child?_insert o segment (nest location v)), replace_nest, setChild,
                Members.insert_insert]
          | some below =>
              rw [hget] at h
              obtain ⟨u, hu, rfl⟩ := Option.map_eq_some_iff.1 h
              simp only [ih hu, Option.map_some, replace_cons (child?_insert o segment u), setChild,
                Members.insert_insert]
      | arr items =>
          obtain ⟨i, hi, hwritten⟩ := Option.bind_eq_some_iff.1 h
          rw [write?, hi, Option.bind_some]
          cases hget : items[i]? with
          | none =>
              simp only [hget] at hwritten ⊢
              by_cases hend : i = items.length ∧ location = []
              · rw [if_pos hend] at hwritten ⊢
                obtain ⟨rfl, rfl⟩ := hend
                obtain rfl := Option.some.inj hwritten
                have hchild : child? segment (.arr (items ++ [v])) = some v := by
                  simp [child?, hi]
                rw [replace_cons hchild, replace, setChild, hi]
                simp
              · rw [if_neg hend] at hwritten
                cases hwritten
          | some below =>
              simp only [hget] at hwritten ⊢
              obtain ⟨u, hu, rfl⟩ := Option.map_eq_some_iff.1 hwritten
              obtain ⟨hlt, -⟩ := List.getElem?_eq_some_iff.1 hget
              have hchild : child? segment (.arr (items.set i u)) = some u := by
                simp [child?, hi, hlt]
              simp only [ih hu, Option.map_some, replace_cons hchild, setChild, hi, List.set_set]
      | _ => cases h

/-- Where a value is, another one is written by replacing it. -/
theorem write?_of_lookup? (h : lookup? location tree = some v) (w : Json) :
    write? location w tree = some (replace location w tree) := by
  have happend : write? (location ++ []) w tree = some (replace location w tree) :=
    write?_append h
  rwa [List.append_nil] at happend

/-! ## What writing leaves alone -/

namespace WrittenAt

theorem value?_stepOf (h : WrittenAt segment v tree tree') :
    (stepOf segment tree).value? tree' = some v := by
  cases h with
  | element hindex hitems => simp [stepOf, hindex, Step.value?, hitems]
  | _ => exact child?_insert ..

theorem value?_of_ne (h : WrittenAt segment v tree tree') (hne : step ≠ stepOf segment tree) :
    step.value? tree' = step.value? tree := by
  cases h with
  | @element items items' i hindex hitems =>
      cases step with
      | member key => rfl
      | element k =>
          have hk : k ≠ i := fun heq => hne (by simp [stepOf, hindex, heq])
          exact (hitems k).trans (if_neg hk)
  | _ =>
      cases step with
      | member key =>
          have hkey : key ≠ segment := fun heq => hne (congrArg Step.member heq)
          exact (Members.get?_insert ..).trans (if_neg hkey)
      | element k => rfl

end WrittenAt

/-- What a writing does one segment down, where nothing is taken for a null. -/
theorem exists_writtenAt_getD (h : write? (segment :: rest) w tree = some tree') :
    ∃ v, WrittenAt segment v tree tree' ∧
      write? rest w ((child? segment tree).getD .null) = some v := by
  obtain ⟨v, hwritten, ⟨hnone, rfl⟩ | ⟨below, hchild, hv⟩⟩ := write?_cons h
  · exact ⟨nest rest w, hwritten, hnone ▸ write?_null rest w⟩
  · exact ⟨v, hwritten, hchild ▸ hv⟩

/-- A place that is neither above nor below the one written to, nor the same, keeps its value. -/
theorem valueAt?_write? (h : write? location w tree = some tree')
    (habove : ¬ q <+: placeOf location tree) (hbelow : ¬ placeOf location tree <+: q) :
    valueAt? q tree' = valueAt? q tree := by
  induction location generalizing tree tree' q with
  | nil => exact absurd List.nil_prefix hbelow
  | cons segment location ih =>
      obtain ⟨v, hwritten, hv⟩ := exists_writtenAt_getD h
      cases q with
      | nil => exact absurd List.nil_prefix habove
      | cons step q =>
          rw [valueAt?, valueAt?]
          by_cases hstep : step = stepOf segment tree
          · subst hstep
            have hq : ¬ q <+: placeOf location _ := mt cons_prefix_cons_self.2 habove
            rw [hwritten.value?_stepOf, Json.value?_stepOf, Option.bind_some,
              ih hv hq (mt cons_prefix_cons_self.2 hbelow)]
            cases child? segment tree with
            | some below => rfl
            | none =>
                -- nothing was there, and in a null nothing is found further down
                cases q with
                | nil => exact absurd List.nil_prefix hq
                | cons next q => cases next <;> rfl
          · rw [hwritten.value?_of_ne hstep]

/-! ## The laws -/

/-- Writing is refused exactly if a segment is empty or the way is not free, and then the tree is
what it was, also in place. A value that was set is found; setting another one afterwards is
setting that one alone; and every member and every element that is not at the place, above or below
it keeps its value. Setting what is there already changes nothing. -/
theorem set_lawful (path : String) (tree v w : Json) :
    let location := Location.ofPath path
    ((∃ fault, set location v tree = .error fault) ↔
      "" ∈ location ∨ canSet location tree = false) ∧
    writeInPlace location v tree =
      (match set location v tree with
      | .ok tree' => (tree', none)
      | .error fault => (tree, some fault)) ∧
    (∀ tree', set location v tree = .ok tree' →
      lookup? location tree' = some v ∧
      (∃ tree'', set location w tree' = .ok tree'' ∧ set location w tree = .ok tree'') ∧
      ∀ q, ¬ q <+: placeOf location tree → ¬ placeOf location tree <+: q →
        valueAt? q tree' = valueAt? q tree) ∧
    ("" ∉ location → lookup? location tree = some v → set location v tree = .ok tree) := by
  intro location
  have hempty : "" ∈ location ↔ location.any String.isEmpty = true := by
    simp [List.any_eq_true]
  refine ⟨?_, writeInPlace_eq location v tree, fun tree' hset => ?_, fun hnot hv => ?_⟩
  · rw [hempty, canSet_eq_isSome_write? location v tree, set_eq]
    cases location.any String.isEmpty with
    | true => simp
    | false => cases write? location v tree <;> simp
  · obtain ⟨hnot, hwrite⟩ := set_eq_ok_iff.1 hset
    have hfound := lookup?_write? hwrite
    have hagain := set_eq_ok_iff.2 ⟨hnot, write?_of_lookup? hfound w⟩
    have hdirect := set_eq_ok_iff.2 ⟨hnot, write?_of_write? hwrite w⟩
    exact ⟨hfound, ⟨_, hagain, hdirect⟩, fun q => valueAt?_write? hwrite⟩
  · rw [hempty, Bool.not_eq_true] at hnot
    refine set_eq_ok_iff.2 ⟨hnot, ?_⟩
    rw [write?_of_lookup? hv, replace_of_lookup? hv]

end ClusterEvents.Json
