import ClusterEvents.Proofs.Json.Alter

/-!
# Laws of writing

What has been written at a location is found there, `lookup?_write?`. One segment down, a
writing puts one value into the slot that the segment names and leaves every other slot as it
was: `WrittenAt`, by `write?_cons`. Two segments name the same slot of an object when they
are equal, and of a list when they are read as the same index, however that is spelled
(`SameSlot`).
-/

namespace ClusterEvents.Json

variable {a b segment : String} {tree tree' below v w : Json} {location rest : Location}

/-! ## Slots -/

/-- The segments name the same member, or the same element, of the value. -/
def SameSlot (a b : String) : Json → Prop
  | .arr _ => index? a = index? b
  | _ => a = b

instance (a b : String) : (tree : Json) → Decidable (SameSlot a b tree)
  | .arr _ => inferInstanceAs (Decidable (index? a = index? b))
  | .null | .bool _ | .int _ | .double _ | .str _ | .obj _ => inferInstanceAs (Decidable (a = b))

theorem SameSlot.child? (h : SameSlot a b tree) : child? a tree = child? b tree := by
  cases tree with
  | arr items =>
      have hindex : index? a = index? b := h
      rw [Json.child?, Json.child?, hindex]
  | _ => rw [(h : a = b)]

theorem sameSlot_setChild : SameSlot a b (setChild segment v tree) ↔ SameSlot a b tree := by
  cases tree with
  | arr items => cases h : index? segment <;> simp [setChild, h, SameSlot]
  | _ => rfl

theorem child?_setChild_of_not_sameSlot (h : ¬ SameSlot a b tree) :
    child? b (setChild a v tree) = child? b tree := by
  cases tree with
  | obj o => exact (Members.get?_insert ..).trans (if_neg fun heq => h heq.symm)
  | arr items =>
      cases hi : index? a with
      | none => simp [setChild, hi]
      | some i =>
          cases hj : index? b with
          | none => simp [setChild, hi, child?, hj]
          | some j =>
              have hij : i ≠ j := fun heq => h (hi.trans (heq ▸ hj.symm))
              simp [setChild, hi, child?, hj, List.getElem?_set_ne hij]
  | _ => rfl

/-! ## Writing -/

/-- A value is put into the slot that a segment names, and the other slots stay as they were.
A null has none and becomes an object. -/
inductive WrittenAt (segment : String) (v : Json) : Json → Json → Prop
  | member (o : Object) : WrittenAt segment v (.obj o) (.obj (o.insert segment v))
  | element {items items' : List Json} {i : Nat} (hindex : index? segment = some i)
      (hitems : ∀ k, items'[k]? = if k = i then some v else items[k]?) :
      WrittenAt segment v (.arr items) (.arr items')
  | null : WrittenAt segment v .null (.obj (Object.empty.insert segment v))

namespace WrittenAt

theorem child? (h : WrittenAt segment v tree tree') : child? segment tree' = some v := by
  cases h with
  | element hindex hitems => simp [Json.child?, hindex, hitems]
  | _ => exact child?_insert ..

theorem child?_of_not_sameSlot (h : WrittenAt b v tree tree') (hab : ¬ SameSlot a b tree)
    (hchild : (Json.child? a tree).isSome) : Json.child? a tree' = Json.child? a tree := by
  cases h with
  | member o => exact (Members.get?_insert ..).trans (if_neg hab)
  | @element items items' i hindex hitems =>
      cases ha : index? a with
      | none => simp [Json.child?, ha] at hchild
      | some j =>
          have hne : j ≠ i := fun heq => hab (ha.trans (heq ▸ hindex.symm))
          simp [Json.child?, ha, hitems, hne]
  | null => cases hchild

theorem sameSlot_iff (h : WrittenAt segment v tree tree') :
    SameSlot a b tree' ↔ SameSlot a b tree := by
  cases h <;> rfl

end WrittenAt

/-- What a writing does one segment down: it writes to the value that is there, or puts new
objects where nothing is. -/
theorem write?_cons (h : write? (segment :: rest) w tree = some tree') :
    ∃ v, WrittenAt segment v tree tree' ∧
      ((child? segment tree = none ∧ v = nest rest w) ∨
        ∃ below, child? segment tree = some below ∧ write? rest w below = some v) := by
  cases tree with
  | null =>
      obtain rfl := Option.some.inj h
      exact ⟨nest rest w, .null, .inl ⟨rfl, rfl⟩⟩
  | obj o =>
      rw [write?] at h
      cases hget : o.get? segment with
      | none =>
          rw [hget] at h
          obtain rfl := Option.some.inj h
          exact ⟨nest rest w, .member o, .inl ⟨hget, rfl⟩⟩
      | some below =>
          rw [hget] at h
          obtain ⟨v, hv, rfl⟩ := Option.map_eq_some_iff.1 h
          exact ⟨v, .member o, .inr ⟨below, hget, hv⟩⟩
  | arr items =>
      obtain ⟨i, hi, hwritten⟩ := Option.bind_eq_some_iff.1 h
      cases hget : items[i]? with
      | none =>
          simp only [hget] at hwritten
          by_cases hend : i = items.length ∧ rest = []
          · rw [if_pos hend] at hwritten
            obtain ⟨rfl, rfl⟩ := hend
            obtain rfl := Option.some.inj hwritten
            refine ⟨w, .element hi fun k => ?_, .inl ⟨?_, rfl⟩⟩
            · rw [List.getElem?_append]
              grind
            · rw [child?, hi, Option.bind_some, hget]
          · rw [if_neg hend] at hwritten
            cases hwritten
      | some below =>
          simp only [hget] at hwritten
          obtain ⟨v, hv, rfl⟩ := Option.map_eq_some_iff.1 hwritten
          obtain ⟨hlt, -⟩ := List.getElem?_eq_some_iff.1 hget
          refine ⟨v, .element hi fun k => ?_, .inr ⟨below, ?_, hv⟩⟩
          · rw [List.getElem?_set]
            grind
          · rw [child?, hi, Option.bind_some, hget]
  | _ => cases h

theorem write?_cons_of_child? (h : write? (segment :: rest) w tree = some tree')
    (hchild : child? segment tree = some below) :
    ∃ v, WrittenAt segment v tree tree' ∧ write? rest w below = some v := by
  obtain ⟨v, hwritten, ⟨hnone, -⟩ | ⟨below', hbelow', hv⟩⟩ := write?_cons h
  · cases hnone.symm.trans hchild
  · obtain rfl := Option.some.inj (hchild.symm.trans hbelow')
    exact ⟨v, hwritten, hv⟩

theorem lookup?_nest (location : Location) (v : Json) :
    lookup? location (nest location v) = some v := by
  induction location with
  | nil => rfl
  | cons segment location ih =>
      have hchild : child? segment (nest (segment :: location) v) = some (nest location v) :=
        child?_insert ..
      rw [lookup?, hchild]
      exact ih

theorem lookup?_write? (h : write? location w tree = some tree') :
    lookup? location tree' = some w := by
  induction location generalizing tree tree' with
  | nil => exact h.symm
  | cons segment location ih =>
      obtain ⟨v, hwritten, hv⟩ := write?_cons h
      rw [lookup?, hwritten.child?, Option.bind_some]
      obtain ⟨-, rfl⟩ | ⟨below, -, hbelow⟩ := hv
      · exact lookup?_nest location w
      · exact ih hbelow

theorem exists_writtenAt (h : write? (segment :: rest) w tree = some tree') :
    ∃ v, WrittenAt segment v tree tree' ∧ lookup? rest v = some w := by
  obtain ⟨v, hwritten, -⟩ := write?_cons h
  have hfound := lookup?_write? h
  rw [lookup?, hwritten.child?, Option.bind_some] at hfound
  exact ⟨v, hwritten, hfound⟩

/-- What is set has been written. -/
theorem write?_of_set (h : set location w tree = .ok tree') :
    write? location w tree = some tree' := by
  rw [set] at h
  split at h
  · cases h
  · split at h
    · cases hwrite : write? location w tree with
      | none =>
          rw [hwrite] at h
          cases h
      | some written =>
          rw [hwrite] at h
          exact congrArg some (Except.ok.inj h)
    · cases h

/-! ## Erasing -/

theorem erase_cons (hrest : rest ≠ []) (h : child? segment tree = some below) :
    erase (segment :: rest) tree = setChild segment (erase rest below) tree := by
  have hlookup : lookup? [segment] tree = some below := by
    rw [lookup?, h]
    rfl
  have herase := erase_append hrest hlookup
  rwa [replace_cons h] at herase

theorem erase_of_lookup?_none (h : lookup? location tree = none) : erase location tree = tree := by
  rw [erase, take?_eq_none_of_lookup? h]
  rfl

theorem erase_arr {i : Nat} (hi : index? segment = some i) (items : List Json) :
    erase [segment] (.arr items) = .arr (items.eraseIdx i) := by
  cases hget : items[i]? with
  | none =>
      have hle : items.length ≤ i := List.getElem?_eq_none_iff.1 hget
      simp [erase, take?, removeChild?, hi, hget, List.eraseIdx_of_length_le hle]
  | some v => simp [erase, take?, removeChild?, hi, hget]

theorem erase_singleton_ne (h : child? segment tree = some below) :
    erase [segment] tree ≠ tree := by
  intro heq
  cases tree with
  | obj o =>
      have hget : o.get? segment = some below := h
      have hsame : o.erase segment = o := Json.obj.inj ((erase_obj segment o).symm.trans heq)
      rw [← hsame, Members.get?_erase, if_pos rfl] at hget
      cases hget
  | arr items =>
      obtain ⟨i, hi, hget⟩ := Option.bind_eq_some_iff.1 h
      obtain ⟨hlt, -⟩ := List.getElem?_eq_some_iff.1 hget
      have hsame : items.eraseIdx i = items :=
        Json.arr.inj ((erase_arr hi items).symm.trans heq)
      have hlength := congrArg List.length hsame
      rw [List.length_eraseIdx_of_lt hlt] at hlength
      omega
  | _ => cases h

/-- Erasing changes a value where there is something to erase. -/
theorem erase_ne_of_lookup? (hne : location ≠ []) (h : lookup? location tree = some v) :
    erase location tree ≠ tree := by
  induction location generalizing tree with
  | nil => exact absurd rfl hne
  | cons segment location ih =>
      obtain ⟨below, hchild, hbelow⟩ := Option.bind_eq_some_iff.1 h
      by_cases hlocation : location = []
      · rw [hlocation]
        exact erase_singleton_ne hchild
      · intro heq
        have hset := child?_setChild (w := erase location below) hchild
        rw [← erase_cons hlocation hchild, heq, hchild] at hset
        exact ih hlocation hbelow (Option.some.inj hset).symm

theorem erase_eq_self_iff (hne : location ≠ []) :
    erase location tree = tree ↔ lookup? location tree = none := by
  refine ⟨fun h => ?_, erase_of_lookup?_none⟩
  cases hv : lookup? location tree with
  | none => rfl
  | some v => exact absurd h (erase_ne_of_lookup? hne hv)

end ClusterEvents.Json
