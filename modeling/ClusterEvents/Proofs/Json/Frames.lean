import ClusterEvents.Json.Equality
import ClusterEvents.Proofs.Json.Places

/-!
# What a change leaves alone

A place in a tree is a list of steps from the root: members of objects, and elements of lists.
Unlike a location, whose segments mean one or the other depending on what they meet, a place
names the same spot in every tree, and every member and every element has one. `placeOf` is the
place that a location leads to.

`form` is what stands at a place itself, without what is further down. Two trees that
`AgreeOutside` a place have the same form everywhere but at this place and below, so with the
value there they are equal (`AgreeOutside.eq`). A replacement agrees outside its place,
`agreeOutside_replace`.
-/

namespace ClusterEvents

namespace Members

variable {b : Option String}

/-- A value that is put in place of another one leaves the keys as they are. -/
theorem keys_put {key : String} {value : Json} {above : Above b key} {m : Members b}
    (h : (m.get? key).isSome) : (m.put key value above).keys = m.keys := by
  induction m using induct with
  | nil b => cases h
  | cons b k hk v rest ih =>
      rw [get?_cons] at h
      rw [put]
      split
      · -- the key would stand in front of all others, so it is not there
        rename_i hlt
        have hne : key ≠ k := fun heq => String.lt_irrefl k (heq ▸ hlt)
        rw [if_neg hne, get?_eq_none_of_not_above rest (String.lt_asymm hlt)] at h
        cases h
      · split
        · rfl
        · rename_i hne
          rw [if_neg hne] at h
          exact congrArg (k :: ·) (ih h)

theorem sizeOf_get?_lt {key : String} {v : Json} {m : Members b} (h : m.get? key = some v) :
    sizeOf v < sizeOf m := by
  induction m using induct with
  | nil b => cases h
  | cons b k hk v' rest ih =>
      rw [cons.sizeOf_spec]
      rw [get?_cons] at h
      split at h
      · obtain rfl := Option.some.inj h
        omega
      · have hrest := ih h
        omega

end Members

namespace Json

/-- One step down: to a member of an object, or to an element of a list. -/
inductive Step where
  | member (key : String)
  | element (i : Nat)
deriving DecidableEq, Repr

/-- A place in a tree, from the root down. -/
abbrev Place := List Step

/-- The value one step below a value. -/
def Step.value? : Step → Json → Option Json
  | .member key, .obj o => o.get? key
  | .element i, .arr items => items[i]?
  | _, _ => none

/-- The value at a place. -/
def valueAt? : Place → Json → Option Json
  | [], tree => some tree
  | step :: rest, tree => (step.value? tree).bind (valueAt? rest)

/-- The step that a segment stands for. -/
def stepOf (segment : String) : Json → Step
  | .arr _ =>
    match index? segment with
    | some i => .element i
    | none => .member segment
  | _ => .member segment

/-- The place that a location leads to. Where nothing is yet, its segments stand for members. -/
def placeOf : Location → Json → Place
  | [], _ => []
  | segment :: rest, tree =>
    stepOf segment tree :: placeOf rest ((child? segment tree).getD .null)

/-- What stands at a place itself: a scalar, how many elements a list has, or which keys an
object has. -/
inductive Form where
  | scalar (v : Json)
  | list (length : Nat)
  | object (keys : List String)
deriving DecidableEq

/-- The form of a value. -/
def form : Json → Form
  | .arr items => .list items.length
  | .obj o => .object o.keys
  | v => .scalar v

variable {segment : String} {step : Step} {tree tree' below v w : Json}
  {location rest : Location} {place p q : Place}

/-! ## One step -/

theorem value?_stepOf (segment : String) (tree : Json) :
    (stepOf segment tree).value? tree = child? segment tree := by
  cases tree with
  | arr items => cases hi : index? segment <;> simp [stepOf, hi, Step.value?, child?]
  | _ => rfl

theorem value?_setChild_of_ne (h : step ≠ stepOf segment tree) :
    step.value? (setChild segment v tree) = step.value? tree := by
  cases tree with
  | obj o =>
      cases step with
      | member key =>
          have hne : key ≠ segment := fun heq => h (congrArg Step.member heq)
          exact (Members.get?_insert ..).trans (if_neg hne)
      | element i => rfl
  | arr items =>
      cases hi : index? segment with
      | none => simp only [setChild, hi]
      | some i =>
          simp only [setChild, hi]
          cases step with
          | member key => rfl
          | element j =>
              have hne : i ≠ j := fun heq => h (by simp [stepOf, hi, heq])
              exact List.getElem?_set_ne hne
  | _ => rfl

theorem stepOf_setChild (a b : String) (v tree : Json) :
    stepOf a (setChild b v tree) = stepOf a tree := by
  cases tree with
  | arr items => cases hi : index? b <;> simp [setChild, hi, stepOf]
  | _ => rfl

theorem form_setChild (h : child? segment tree = some below) :
    form (setChild segment v tree) = form tree := by
  cases tree with
  | obj o => exact congrArg Form.object (Members.keys_put (Option.isSome_of_mem h))
  | arr items => cases hi : index? segment <;> simp [setChild, hi, form]
  | _ => cases h

/-- A value is determined by its form and the values one step down. -/
theorem ext_of_value? (hform : form tree = form tree')
    (h : ∀ step : Step, step.value? tree = step.value? tree') : tree = tree' := by
  cases tree <;> cases tree' <;> try cases hform
  case arr.arr items items' =>
    exact congrArg Json.arr (List.ext_getElem? fun i => h (.element i))
  case obj.obj o o' => exact congrArg Json.obj (Members.ext _ _ fun key => h (.member key))
  all_goals rfl

/-! ## Places -/

theorem valueAt?_append (p q : Place) (tree : Json) :
    valueAt? (p ++ q) tree = (valueAt? p tree).bind (valueAt? q) := by
  induction p generalizing tree with
  | nil => rfl
  | cons step p ih =>
      simp only [List.cons_append, valueAt?]
      cases step.value? tree with
      | none => rfl
      | some below => exact ih below

theorem placeOf_cons (h : child? segment tree = some below) :
    placeOf (segment :: rest) tree = stepOf segment tree :: placeOf rest below := by
  rw [placeOf, h, Option.getD_some]

theorem placeOf_append (h : lookup? location tree = some v) (rest : Location) :
    placeOf (location ++ rest) tree = placeOf location tree ++ placeOf rest v := by
  induction location generalizing tree with
  | nil =>
      obtain rfl := Option.some.inj h
      rfl
  | cons segment location ih =>
      obtain ⟨below, hchild, hbelow⟩ := Option.bind_eq_some_iff.1 h
      rw [List.cons_append, placeOf_cons hchild, placeOf_cons hchild, ih hbelow, List.cons_append]

/-- What a location leads to is the value at its place. -/
theorem valueAt?_placeOf (location : Location) (tree : Json) :
    valueAt? (placeOf location tree) tree = lookup? location tree := by
  induction location generalizing tree with
  | nil => rfl
  | cons segment location ih =>
      rw [placeOf, valueAt?, value?_stepOf, lookup?]
      cases child? segment tree with
      | none => rfl
      | some below => exact ih below

/-- A step and the same step of a place behind it: the place goes on below. -/
theorem cons_prefix_cons_self : step :: p <+: step :: q ↔ p <+: q := by
  rw [List.cons_prefix_cons, and_iff_right rfl]

/-- They go different ways: neither leads through the other. -/
def Apart {α : Type} (p q : List α) : Prop :=
  ¬ p <+: q ∧ ¬ q <+: p

theorem Apart.not_prefix_append {α : Type} {p q : List α} (h : Apart p q) (r : List α) :
    ¬ p <+: q ++ r := fun hp =>
  (List.prefix_or_prefix_of_prefix hp (List.prefix_append q r)).elim h.1 h.2

/-! ## Trees that agree outside a place -/

/-- The trees have the same form at every place that is not the given one or below it. -/
def AgreeOutside (p : Place) (tree tree' : Json) : Prop :=
  ∀ q, ¬ p <+: q → (valueAt? q tree').map form = (valueAt? q tree).map form

theorem sizeOf_value?_lt (h : step.value? tree = some v) : sizeOf v < sizeOf tree := by
  cases tree with
  | arr items =>
      cases step with
      | member key => cases h
      | element i =>
          have hlt := List.sizeOf_lt_of_mem (List.mem_of_getElem? h)
          rw [arr.sizeOf_spec]
          omega
  | obj o =>
      cases step with
      | member key =>
          have hlt := Members.sizeOf_get?_lt h
          rw [obj.sizeOf_spec]
          omega
      | element i => cases h
  | _ => cases step <;> cases h

/-- A tree is determined by the forms at its places. -/
theorem ext_of_form (h : ∀ q, (valueAt? q tree').map form = (valueAt? q tree).map form) :
    tree' = tree := by
  induction hsize : sizeOf tree using Nat.strongRecOn generalizing tree tree' with
  | ind n ih =>
    refine ext_of_value? (Option.some.inj (h [])) fun step => ?_
    have hstep := h [step]
    simp only [valueAt?, Option.bind_fun_some] at hstep
    cases hv : step.value? tree with
    | none =>
        rw [hv] at hstep
        exact Option.map_eq_none_iff.1 hstep
    | some v =>
        obtain ⟨v', hv', -⟩ := Option.map_eq_some_iff.1 (hstep.trans (congrArg _ hv))
        rw [hv']
        refine congrArg some (ih (sizeOf v) (hsize ▸ sizeOf_value?_lt hv) (fun q => ?_) rfl)
        have hq := h (step :: q)
        rwa [valueAt?, valueAt?, hv, hv'] at hq

namespace AgreeOutside

theorem refl (p : Place) (tree : Json) : AgreeOutside p tree tree :=
  fun _ _ => rfl

theorem symm (h : AgreeOutside p tree tree') : AgreeOutside p tree' tree :=
  fun q hq => (h q hq).symm

theorem trans {tree'' : Json} (h : AgreeOutside p tree tree') (h' : AgreeOutside p tree' tree'') :
    AgreeOutside p tree tree'' :=
  fun q hq => (h' q hq).trans (h q hq)

/-- Below a step on the way to the place, the values there agree. -/
theorem inside (h : AgreeOutside (step :: p) tree tree') (hv : step.value? tree = some v)
    (hw : step.value? tree' = some w) : AgreeOutside p v w := by
  intro q hq
  have hforms := h (step :: q) (mt cons_prefix_cons_self.1 hq)
  rwa [valueAt?, valueAt?, hv, hw] at hforms

/-- Trees that have the same at the place, too, are equal. -/
theorem eq (h : AgreeOutside p tree tree') (hp : valueAt? p tree' = valueAt? p tree) :
    tree' = tree := by
  refine ext_of_form fun q => ?_
  by_cases hq : p <+: q
  · obtain ⟨r, rfl⟩ := hq
    rw [valueAt?_append, valueAt?_append, hp]
  · exact h q hq

/-- A place that goes another way keeps its value. -/
theorem valueAt?_eq (h : AgreeOutside p tree tree') (hq : Apart p q) :
    valueAt? q tree' = valueAt? q tree := by
  have hforms := h q hq.1
  cases hv : valueAt? q tree with
  | none =>
      rw [hv] at hforms
      exact Option.map_eq_none_iff.1 hforms
  | some v =>
      obtain ⟨v', hv', -⟩ := Option.map_eq_some_iff.1 (hforms.trans (congrArg _ hv))
      rw [hv']
      refine congrArg some (ext_of_form fun r => ?_)
      have hr := h (q ++ r) (hq.not_prefix_append r)
      rwa [valueAt?_append, valueAt?_append, hv, hv'] at hr

end AgreeOutside

theorem stepOf_eq_of_form (segment : String) (h : form tree' = form tree) :
    stepOf segment tree' = stepOf segment tree := by
  cases tree <;> cases tree' <;> first | rfl | cases h

/-- A location leads to the same place in both trees. -/
theorem AgreeOutside.placeOf_eq (h : AgreeOutside (placeOf location tree) tree tree')
    (hv : lookup? location tree = some v) : placeOf location tree' = placeOf location tree := by
  induction location generalizing tree tree' with
  | nil => rfl
  | cons segment location ih =>
      obtain ⟨below, hchild, hbelow⟩ := Option.bind_eq_some_iff.1 hv
      rw [placeOf_cons hchild] at h ⊢
      have hroot := Option.some.inj (h [] (List.cons_ne_nil _ _ ∘ List.prefix_nil.1))
      have hstep := stepOf_eq_of_form segment hroot
      cases location with
      | nil => exact congrArg (· :: []) hstep
      | cons next location =>
          -- the place goes on below the child, so the other tree has the child, too
          have hforms := h [stepOf segment tree] fun hpre => by
            simpa [placeOf] using List.cons_prefix_cons.1 hpre
          have htree : (stepOf segment tree).value? tree = some below :=
            (value?_stepOf segment tree).trans hchild
          simp only [valueAt?, Option.bind_fun_some, htree] at hforms
          obtain ⟨below', htree', -⟩ := Option.map_eq_some_iff.1 hforms
          have hchild' : child? segment tree' = some below' := by
            rw [← value?_stepOf, hstep, htree']
          rw [placeOf_cons hchild', hstep, ih (h.inside htree htree') hbelow]

/-- Replacing a value changes nothing outside its place. -/
theorem agreeOutside_replace (h : lookup? location tree = some v) (w : Json) :
    AgreeOutside (placeOf location tree) tree (replace location w tree) := by
  induction location generalizing tree with
  | nil => exact fun q hq => absurd (List.nil_prefix) hq
  | cons segment location ih =>
      obtain ⟨below, hchild, hbelow⟩ := Option.bind_eq_some_iff.1 h
      rw [placeOf_cons hchild, replace_cons hchild]
      intro q hq
      cases q with
      | nil => exact congrArg some (form_setChild hchild)
      | cons step q =>
          by_cases hstep : step = stepOf segment tree
          · subst hstep
            have hset : (stepOf segment tree).value?
                (setChild segment (replace location w below) tree) =
                  some (replace location w below) := by
              rw [← stepOf_setChild segment segment, value?_stepOf, child?_setChild hchild]
            rw [valueAt?, valueAt?, hset, value?_stepOf, hchild]
            exact ih hbelow q (mt cons_prefix_cons_self.2 hq)
          · rw [valueAt?, valueAt?, value?_setChild_of_ne hstep]

/-- What is put in the place of a value is at that place afterwards. -/
theorem valueAt?_replace (h : lookup? location tree = some v) (w : Json) :
    valueAt? (placeOf location tree) (replace location w tree) = some w := by
  rw [← (agreeOutside_replace h w).placeOf_eq h, valueAt?_placeOf, lookup?_replace h]

end Json

end ClusterEvents
