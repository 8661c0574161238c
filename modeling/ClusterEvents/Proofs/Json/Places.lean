import ClusterEvents.Json.Path

/-!
# Laws of locations

A location that leads somewhere can be read and written independently of the rest of the
tree. What is looked up after a `replace` is what was put there, the last of several
replacements counts, and putting back what is there changes nothing. Reading, writing and
erasing further down, at `location ++ rest`, is the same operation on the value at
`location`, put back in its place.
-/

namespace ClusterEvents

namespace Members

theorem insert_eq_self {o : Object} {key : String} {v : Json} (h : o.get? key = some v) :
    o.insert key v = o := by
  refine ext _ _ fun other => ?_
  rw [get?_insert]
  split
  · rename_i heq
    rw [heq, h]
  · rfl

theorem insert_insert (o : Object) (key : String) (v w : Json) :
    (o.insert key v).insert key w = o.insert key w := by
  refine ext _ _ fun other => ?_
  simp only [get?_insert]
  split <;> rfl

theorem erase_eq_self {o : Object} {key : String} (h : o.get? key = none) :
    o.erase key = o := by
  refine ext _ _ fun other => ?_
  rw [get?_erase]
  split
  · rename_i heq
    rw [heq, h]
  · rfl

theorem erase_insert {o : Object} {key : String} (h : o.get? key = none) (v : Json) :
    (o.insert key v).erase key = o := by
  refine ext _ _ fun other => ?_
  rw [get?_erase, get?_insert]
  split
  · rename_i heq
    rw [heq, h]
  · rfl

end Members

namespace Json

variable {segment : String} {tree below v w : Json} {location rest : Location}

/-! ## One segment -/

theorem setChild_of_child? (h : child? segment tree = some v) :
    setChild segment v tree = tree := by
  cases tree with
  | obj o => exact congrArg Json.obj (Members.insert_eq_self h)
  | arr items =>
      obtain ⟨i, hi, hget⟩ := Option.bind_eq_some_iff.1 h
      simp only [setChild, hi]
      obtain ⟨hlt, rfl⟩ := List.getElem?_eq_some_iff.1 hget
      rw [List.set_getElem_self]
  | _ => cases h

theorem child?_insert (o : Object) (segment : String) (v : Json) :
    child? segment (.obj (o.insert segment v)) = some v :=
  (Members.get?_insert ..).trans (if_pos rfl)

theorem child?_setChild (h : child? segment tree = some v) :
    child? segment (setChild segment w tree) = some w := by
  cases tree with
  | obj o => exact child?_insert o segment w
  | arr items =>
      obtain ⟨i, hi, hget⟩ := Option.bind_eq_some_iff.1 h
      obtain ⟨hlt, -⟩ := List.getElem?_eq_some_iff.1 hget
      simp [setChild, child?, hi, hlt]
  | _ => cases h

theorem setChild_setChild (u : Json) :
    setChild segment u (setChild segment w tree) = setChild segment u tree := by
  cases tree with
  | obj o => simp [setChild, Members.insert_insert]
  | arr items => cases hi : index? segment <;> simp [setChild, hi]
  | _ => rfl

/-! ## Looking up and replacing -/

theorem lookup?_append (location rest : Location) (tree : Json) :
    lookup? (location ++ rest) tree = (lookup? location tree).bind (lookup? rest) := by
  induction location generalizing tree with
  | nil => rfl
  | cons segment location ih =>
      simp only [List.cons_append, lookup?]
      cases child? segment tree with
      | none => rfl
      | some below => exact ih below

theorem replace_cons (h : child? segment tree = some below) :
    replace (segment :: rest) v tree = setChild segment (replace rest v below) tree := by
  simp [replace, h]

theorem lookup?_replace (h : lookup? location tree = some v) :
    lookup? location (replace location w tree) = some w := by
  induction location generalizing tree with
  | nil => rfl
  | cons segment location ih =>
      obtain ⟨below, hchild, hbelow⟩ := Option.bind_eq_some_iff.1 h
      rw [replace_cons hchild, lookup?, child?_setChild hchild]
      exact ih hbelow

theorem replace_of_lookup? (h : lookup? location tree = some v) :
    replace location v tree = tree := by
  induction location generalizing tree with
  | nil => exact (Option.some.inj h).symm
  | cons segment location ih =>
      obtain ⟨below, hchild, hbelow⟩ := Option.bind_eq_some_iff.1 h
      rw [replace_cons hchild, ih hbelow, setChild_of_child? hchild]

theorem replace_eq_self_iff (hv : lookup? location tree = some v) :
    replace location w tree = tree ↔ w = v := by
  constructor
  · intro h
    have hw := lookup?_replace (w := w) hv
    rw [h, hv] at hw
    exact (Option.some.inj hw).symm
  · rintro rfl
    exact replace_of_lookup? hv

theorem replace_replace (u : Json) (h : lookup? location tree = some v) :
    replace location u (replace location w tree) = replace location u tree := by
  induction location generalizing tree with
  | nil => rfl
  | cons segment location ih =>
      obtain ⟨below, hchild, hbelow⟩ := Option.bind_eq_some_iff.1 h
      rw [replace_cons hchild, replace_cons hchild, replace_cons (child?_setChild hchild),
        setChild_setChild, ih hbelow]

/-! ## Writing and erasing further down -/

theorem canSet_append (h : lookup? location tree = some v) :
    canSet (location ++ rest) tree = canSet rest v := by
  induction location generalizing tree with
  | nil =>
      obtain rfl := Option.some.inj h
      rfl
  | cons segment location ih =>
      obtain ⟨below, hchild, hbelow⟩ := Option.bind_eq_some_iff.1 h
      rw [← ih hbelow]
      cases tree with
      | obj o =>
          have hget : o.get? segment = some below := hchild
          simp [canSet, hget]
      | arr items =>
          obtain ⟨i, hi, hget⟩ := Option.bind_eq_some_iff.1 hchild
          simp [canSet, hi, hget]
      | _ => cases hchild

theorem write?_append (h : lookup? location tree = some v) :
    write? (location ++ rest) w tree =
      (write? rest w v).map fun v => replace location v tree := by
  induction location generalizing tree with
  | nil =>
      obtain rfl := Option.some.inj h
      exact Option.map_id'.symm
  | cons segment location ih =>
      obtain ⟨below, hchild, hbelow⟩ := Option.bind_eq_some_iff.1 h
      simp only [replace_cons hchild]
      cases tree with
      | obj o =>
          have hget : o.get? segment = some below := hchild
          simp [write?, setChild, hget, ih hbelow, Function.comp_def]
      | arr items =>
          obtain ⟨i, hi, hget⟩ := Option.bind_eq_some_iff.1 hchild
          simp [write?, setChild, hi, hget, ih hbelow, Function.comp_def]
      | _ => cases hchild

theorem set_append (hnonempty : location.any String.isEmpty = false)
    (h : lookup? location tree = some v) :
    set (location ++ rest) w tree =
      (set rest w v).map fun v => replace location v tree := by
  simp only [set, List.any_append, hnonempty, Bool.false_or, canSet_append h, write?_append h]
  split
  · rfl
  · split
    · cases write? rest w v <;> rfl
    · rfl

theorem take?_append (hrest : rest ≠ []) (h : lookup? location tree = some v) :
    take? (location ++ rest) tree =
      (take? rest v).map fun (taken, left) => (taken, replace location left tree) := by
  induction location generalizing tree with
  | nil =>
      obtain rfl := Option.some.inj h
      exact Option.map_id'.symm
  | cons segment location ih =>
      obtain ⟨below, hchild, hbelow⟩ := Option.bind_eq_some_iff.1 h
      have hne : location ++ rest ≠ [] := fun hnil => hrest (List.append_eq_nil_iff.1 hnil).2
      rw [List.cons_append, take?.eq_3 _ _ _ hne, hchild, Option.bind_some, ih hbelow,
        Option.map_map]
      simp only [replace_cons hchild]
      rfl

theorem erase_append (hrest : rest ≠ []) (h : lookup? location tree = some v) :
    erase (location ++ rest) tree = replace location (erase rest v) tree := by
  rw [erase, erase, take?_append hrest h]
  cases take? rest v with
  | none => exact (replace_of_lookup? h).symm
  | some taken => rfl

theorem erase_replace_append (hrest : rest ≠ []) (h : lookup? location tree = some v) :
    erase (location ++ rest) (replace location w tree) =
      replace location (erase rest w) tree := by
  rw [erase_append hrest (lookup?_replace h), replace_replace _ h]

theorem take?_eq_none_of_lookup? (h : lookup? location tree = none) :
    take? location tree = none := by
  induction location generalizing tree with
  | nil => rfl
  | cons segment location ih =>
      cases location with
      | nil =>
          have hchild : child? segment tree = none := by
            simpa [lookup?] using h
          cases tree with
          | obj o =>
              have hget : o.get? segment = none := hchild
              simp [take?, removeChild?, hget]
          | arr items =>
              cases hi : index? segment with
              | none => simp [take?, removeChild?, hi]
              | some i =>
                  have hget : items[i]? = none := by simpa [child?, hi] using hchild
                  simp [take?, removeChild?, hi, hget]
          | _ => rfl
      | cons next location =>
          simp only [take?]
          cases hchild : child? segment tree with
          | none => rfl
          | some below =>
              have hbelow : lookup? (next :: location) below = none := by
                rw [lookup?, hchild] at h
                exact h
              simp [ih hbelow]

end Json

end ClusterEvents
