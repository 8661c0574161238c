import ClusterEvents.Json.Edit
import ClusterEvents.Proofs.Json.Places
import ClusterEvents.Proofs.Json.Unpack

/-!
# Edits as alterations

Every edit along a path changes the value at a location by a function that knows nothing
of the rest of the tree. `alter location f` is that change: `f` is run on the value at
`location`, and a tree without that location stays as it is. Alterations one below the
other, and alterations of the same place, compose.

`transformPath_fst`, `deletePath_fst`, `renamePair_fst_of_single` and
`renamePair_fst_of_each` say which alteration each edit is, and `transform_fst` and
`delete_fst` take the paths one after the other. On objects an alteration of one segment is
`Members.alter`, which `get?_alter` describes by look-ups. A change of an object that
`Spares` a key commutes with alterations under it.
-/

namespace ClusterEvents

namespace Members

/-- The object with the value under a key changed, if there is one. -/
def alter (o : Object) (key : String) (f : Json → Json) : Object :=
  match o.get? key with
  | none => o
  | some v => o.insert key (f v)

/-- The object with the value under one key moved to another, unpacked. -/
def move (o : Object) (source target : String) : Object :=
  match o.get? source with
  | none => o
  | some v => (o.insert target (Json.unpack v)).erase source

theorem get?_alter (o : Object) (key : String) (f : Json → Json) (other : String) :
    (o.alter key f).get? other = if other = key then (o.get? key).map f else o.get? other := by
  rw [alter]
  cases h : o.get? key with
  | none =>
      by_cases heq : other = key
      · simp [heq, h]
      · simp [heq]
  | some v => exact get?_insert ..

theorem get?_move (o : Object) (source target other : String) :
    (o.move source target).get? other =
      if other = source then none
      else if other = target then ((o.get? source).map Json.unpack).or (o.get? target)
      else o.get? other := by
  rw [move]
  cases h : o.get? source with
  | none =>
      by_cases hsource : other = source
      · simp [hsource, h]
      · by_cases htarget : other = target
        · subst htarget
          simp [hsource]
        · simp [hsource, htarget]
  | some v => simp [get?_erase, get?_insert]

theorem alter_alter (o : Object) (key : String) (f g : Json → Json) :
    (o.alter key g).alter key f = o.alter key fun v => f (g v) := by
  refine ext _ _ fun other => ?_
  simp only [get?_alter, if_true, Option.map_map]
  split <;> rfl

theorem alter_insert (o : Object) (key : String) (v : Json) (f : Json → Json) :
    (o.insert key v).alter key f = o.insert key (f v) := by
  simp [alter, get?_insert, insert_insert]

/-! ## Objects that agree -/

/-- The objects have the same under all keys but some. -/
def AgreeExcept (keys : List String) (o o' : Object) : Prop :=
  ∀ key, key ∉ keys → o.get? key = o'.get? key

namespace AgreeExcept

variable {keys : List String} {o o' : Object} {key : String}

theorem symm (h : AgreeExcept keys o o') : AgreeExcept keys o' o :=
  fun key hkey => (h key hkey).symm

theorem trans {o₁ o₂ o₃ : Object} (h : AgreeExcept keys o₁ o₂) (h' : AgreeExcept keys o₂ o₃) :
    AgreeExcept keys o₁ o₃ :=
  fun key hkey => (h key hkey).trans (h' key hkey)

theorem eq (h : AgreeExcept [key] o o') (hkey : o.get? key = o'.get? key) : o = o' := by
  refine ext _ _ fun other => ?_
  by_cases heq : other = key
  · rw [heq, hkey]
  · exact h other (by simpa using heq)

theorem insert_left (o : Object) (key : String) (v : Json) :
    AgreeExcept [key] (o.insert key v) o := by
  intro other hother
  rw [get?_insert, if_neg (by simpa using hother)]

theorem alter_left (o : Object) (key : String) (f : Json → Json) :
    AgreeExcept [key] (o.alter key f) o := by
  intro other hother
  rw [get?_alter, if_neg (by simpa using hother)]

theorem alter (h : AgreeExcept keys o o') (key : String) (f : Json → Json) :
    AgreeExcept keys (o.alter key f) (o'.alter key f) := by
  intro other hother
  simp only [get?_alter, h other hother]
  split
  · rename_i heq
    rw [h key (heq ▸ hother)]
  · rfl

theorem erase (h : AgreeExcept keys o o') (key : String) :
    AgreeExcept keys (o.erase key) (o'.erase key) := by
  intro other hother
  simp only [get?_erase, h other hother]

/-- Moving a value spreads what it was, so the objects must agree on it. -/
theorem move {source : String} (h : AgreeExcept keys o o') (hsource : source ∉ keys)
    (target : String) : AgreeExcept keys (o.move source target) (o'.move source target) := by
  intro other hother
  simp only [get?_move, h other hother, h source hsource]
  split
  · rfl
  · split
    · rename_i heq
      rw [h target (heq ▸ hother)]
    · rfl

end AgreeExcept

/-- A change of objects that neither touches the value under a key nor looks at it. -/
structure Spares (key : String) (own : Object → Object) : Prop where
  get? (o : Object) : (own o).get? key = o.get? key
  agree {o o' : Object} : AgreeExcept [key] o o' → AgreeExcept [key] (own o) (own o')

namespace Spares

variable {key : String} {own own' : Object → Object}

theorem comp (h : Spares key own) (h' : Spares key own') : Spares key fun o => own (own' o) where
  get? o := (h.get? (own' o)).trans (h'.get? o)
  agree hagree := h.agree (h'.agree hagree)

theorem alter {other : String} (hne : key ≠ other) (f : Json → Json) :
    Spares key fun o => o.alter other f where
  get? o := by rw [get?_alter, if_neg hne]
  agree h := h.alter other f

theorem erase {other : String} (hne : key ≠ other) : Spares key fun o => o.erase other where
  get? o := by rw [get?_erase, if_neg hne]
  agree h := h.erase other

theorem move {source target : String} (hsource : key ≠ source) (htarget : key ≠ target) :
    Spares key fun o => o.move source target where
  get? o := by rw [get?_move, if_neg hsource, if_neg htarget]
  agree h := h.move (by simpa using hsource.symm) target

theorem alter_eq (h : Spares key own) (o : Object) (f : Json → Json) :
    own (o.alter key f) = (own o).alter key f := by
  have hagree := h.agree (AgreeExcept.alter_left o key f)
  refine (hagree.trans (AgreeExcept.alter_left (own o) key f).symm).eq ?_
  rw [h.get?, get?_alter, get?_alter, h.get?]

theorem insert_eq (h : Spares key own) (o : Object) (v : Json) :
    own (o.insert key v) = (own o).insert key v := by
  have hagree := h.agree (AgreeExcept.insert_left o key v)
  refine (hagree.trans (AgreeExcept.insert_left (own o) key v).symm).eq ?_
  rw [h.get?, get?_insert, get?_insert, if_pos rfl, if_pos rfl]

/-- Changes of an object and of the value under a key, and then others. -/
theorem alter_comp (h : Spares key own) (f g : Json → Json) (o : Object) :
    (own ((own' o).alter key g)).alter key f = (own (own' o)).alter key fun v => f (g v) := by
  rw [h.alter_eq, alter_alter]

end Spares

end Members

namespace Json

variable {segment : String} {tree v : Json} {location rest : Location} {f g : Json → Json}

/-! ## Alterations -/

/-- The value with the one a segment further down changed, if there is one. -/
def alterChild (segment : String) (f : Json → Json) (tree : Json) : Json :=
  match child? segment tree with
  | none => tree
  | some below => setChild segment (f below) tree

/-- The tree with the value at a location changed, if there is one. -/
def alter : Location → (Json → Json) → Json → Json
  | [], f => f
  | segment :: rest, f => alterChild segment (alter rest f)

/-- The list with every element changed; a text is unpacked first, and all else stays as
it is. -/
def alterItems (f : Json → Json) (v : Json) : Json :=
  match unpack v with
  | .arr items => .arr (items.map f)
  | other => other

theorem alter_cons (segment : String) (rest : Location) (f : Json → Json) :
    alter (segment :: rest) f = alterChild segment (alter rest f) := rfl

theorem alterChild_alterChild (segment : String) (f g : Json → Json) (tree : Json) :
    alterChild segment f (alterChild segment g tree) =
      alterChild segment (fun v => f (g v)) tree := by
  cases h : child? segment tree with
  | none => simp [alterChild, h]
  | some below => simp [alterChild, h, child?_setChild h, setChild_setChild]

theorem alter_of_lookup? (h : lookup? location tree = some v) :
    alter location f tree = replace location (f v) tree := by
  induction location generalizing tree with
  | nil =>
      obtain rfl := Option.some.inj h
      rfl
  | cons segment location ih =>
      obtain ⟨below, hchild, hbelow⟩ := Option.bind_eq_some_iff.1 h
      rw [alter_cons, replace_cons hchild, ← ih hbelow, alterChild, hchild]

theorem alter_of_lookup?_none (h : lookup? location tree = none) :
    alter location f tree = tree := by
  induction location generalizing tree with
  | nil => cases h
  | cons segment location ih =>
      rw [alter_cons, alterChild]
      cases hchild : child? segment tree with
      | none => rfl
      | some below =>
          rw [lookup?, hchild] at h
          exact (congrArg (setChild segment · tree) (ih h)).trans (setChild_of_child? hchild)

@[simp] theorem alterChild_obj (segment : String) (f : Json → Json) (o : Object) :
    alterChild segment f (.obj o) = .obj (o.alter segment f) := by
  rw [alterChild, Members.alter, child?]
  cases o.get? segment <;> rfl

@[simp] theorem alterItems_arr (f : Json → Json) (items : List Json) :
    alterItems f (.arr items) = .arr (items.map f) := rfl

/-! ## Edits -/

/-- What a rewriting makes of a value: where `f` refuses, the value stays as it was. -/
def rewritten (f : Json → Except String Json) (v : Json) : Json :=
  match f (unpack v) with
  | .ok new => new
  | .error _ => v

/-- The value with one further down moved to another place, unless it cannot be written
there. -/
def relocate (source target : Location) (tree : Json) : Json :=
  match lookup? source tree with
  | none => tree
  | some v =>
    match set target (unpack v) tree with
    | .ok tree => erase source tree
    | .error _ => tree

theorem transformAt_fst (f : Json → Except String Json) (label path : String) (tree : Json) :
    (transformAt f label path tree).1 = alter (Location.ofPath path) (rewritten f) tree := by
  rw [transformAt]
  cases h : lookup? (Location.ofPath path) tree with
  | none => exact (alter_of_lookup?_none h).symm
  | some v =>
      simp only [alter_of_lookup? h, rewritten]
      cases f (unpack v) with
      | ok new => rfl
      | error reason => exact (replace_of_lookup? h).symm

theorem editItems_fst (edit : Json → Edited) (items : List Json) :
    (editItems edit items).1 = items.map fun item => (edit item).1 := by
  induction items with
  | nil => rfl
  | cons item rest ih => simp [editItems, ih]

theorem editItems_snd (edit : Json → Edited) (items : List Json) :
    (editItems edit items).2 = items.flatMap fun item => (edit item).2 := by
  induction items with
  | nil => rfl
  | cons item rest ih => rw [editItems, List.flatMap_cons, ← ih]

theorem editEach_fst (parent : String) (edit : Json → Edited) (tree : Json) :
    (editEach parent edit tree).1 =
      alter (Location.ofPath parent) (alterItems fun item => (edit item).1) tree := by
  rw [editEach]
  cases h : lookup? (Location.ofPath parent) tree with
  | none => exact (alter_of_lookup?_none h).symm
  | some v =>
      simp only [alter_of_lookup? h, alterItems]
      cases unpack v with
      | arr items => simp [editItems_fst]
      | _ => rfl

theorem erase_eq_alter (location : Location) {rest : Location} (hrest : rest ≠ [])
    (tree : Json) : erase (location ++ rest) tree = alter location (erase rest) tree := by
  cases h : lookup? location tree with
  | none =>
      have hnone : lookup? (location ++ rest) tree = none := by
        rw [lookup?_append, h, Option.bind_none]
      rw [alter_of_lookup?_none h, erase, take?_eq_none_of_lookup? hnone]
      rfl
  | some v => rw [erase_append hrest h, alter_of_lookup? h]

theorem relocate_append (location : Location) {source target : Location} (hsource : source ≠ [])
    (hnonempty : location.any String.isEmpty = false) (tree : Json) :
    relocate (location ++ source) (location ++ target) tree =
      alter location (relocate source target) tree := by
  rw [relocate]
  cases h : lookup? location tree with
  | none =>
      rw [alter_of_lookup?_none h, lookup?_append, h]
      rfl
  | some node =>
      rw [alter_of_lookup? h, lookup?_append, h, Option.bind_some, relocate]
      cases lookup? source node with
      | none => exact (replace_of_lookup? h).symm
      | some v =>
          simp only [set_append hnonempty h]
          cases set target (unpack v) node with
          | error fault => exact (replace_of_lookup? h).symm
          | ok node' => exact erase_replace_append hsource h

theorem moveValue_fst {source target : String} (hne : source ≠ target) (tree : Json) :
    (moveValue source target tree).1 =
      relocate (Location.ofPath source) (Location.ofPath target) tree := by
  rw [moveValue, if_neg hne, relocate]
  cases lookup? (Location.ofPath source) tree with
  | none => rfl
  | some v =>
      dsimp only
      cases set (Location.ofPath target) (unpack v) tree <;> rfl

/-! ## Edits of what paths address -/

/-- What a path addresses, with its locations read. -/
inductive Target where
  | one (location : Location)
  | each (parent child : Location)

namespace Target

/-- What a selector addresses. -/
def ofSelector : Selector → Target
  | .single path => .one (Location.ofPath path)
  | .each parent child => .each (Location.ofPath parent) (Location.ofPath child)

/-- Reads a path and its locations. -/
def ofPath (path : String) : Except PathFault Target :=
  (Selector.ofPath path).map ofSelector

/-- An edit of a location, run on what is addressed. -/
def edit (f : Location → Json → Json) : Target → Json → Json
  | .one location => f location
  | .each parent child => alter parent (alterItems (f child))

theorem exists_selector {path : String} {target : Target} (h : ofPath path = .ok target) :
    ∃ s, Selector.ofPath path = .ok s ∧ ofSelector s = target := by
  rw [ofPath] at h
  cases hs : Selector.ofPath path with
  | error fault =>
      rw [hs] at h
      cases h
  | ok s =>
      rw [hs] at h
      exact ⟨s, rfl, Except.ok.inj h⟩

end Target

theorem transformPath_fst (f : Json → Except String Json) {path : String}
    {target : Target} (h : Target.ofPath path = .ok target) (tree : Json) :
    (transformPath f path tree).1 = target.edit (alter · (rewritten f)) tree := by
  obtain ⟨s, hs, rfl⟩ := Target.exists_selector h
  rw [transformPath, hs]
  cases s with
  | single path => exact transformAt_fst f path path tree
  | each parent child =>
      simp only [editEach_fst, transformAt_fst]
      rfl

theorem deletePath_fst {path : String} {target : Target}
    (h : Target.ofPath path = .ok target) (tree : Json) :
    (deletePath path tree).1 = target.edit erase tree := by
  obtain ⟨s, hs, rfl⟩ := Target.exists_selector h
  rw [deletePath, hs]
  cases s with
  | single path => rfl
  | each parent child => exact editEach_fst ..

theorem renamePair_fst_of_single {source target : String} (hne : source ≠ target)
    (hsource : Selector.ofPath source = .ok (.single source))
    (htarget : Selector.ofPath target = .ok (.single target)) (tree : Json) :
    (renamePair (source, target) tree).1 =
      relocate (Location.ofPath source) (Location.ofPath target) tree := by
  simp only [renamePair, hsource, htarget, moveValue_fst hne]

theorem renamePair_fst_of_each {source target : String} (parent child child' : String)
    (hne : child ≠ child') (hsource : Selector.ofPath source = .ok (.each parent child))
    (htarget : Selector.ofPath target = .ok (.each parent child')) (tree : Json) :
    (renamePair (source, target) tree).1 =
      alter (Location.ofPath parent)
        (alterItems (relocate (Location.ofPath child) (Location.ofPath child'))) tree := by
  simp only [renamePair, hsource, htarget, if_true, editEach_fst, moveValue_fst hne]

theorem editAll_singleton {α : Type} (edit : α → Json → Edited) (a : α) (tree : Json) :
    editAll edit [a] tree = edit a tree := by
  simp [editAll]

/-- Edits of what paths address, one path after the other. -/
theorem editAll_fst {edit : String → Json → Edited} {step : Target → Json → Json}
    (hedit : ∀ path t, Target.ofPath path = .ok t → ∀ tree, (edit path tree).1 = step t tree)
    {paths : List String} (targets : List Target)
    (h : paths.map Target.ofPath = targets.map .ok) (tree : Json) :
    (editAll edit paths tree).1 = targets.foldl (fun tree t => step t tree) tree := by
  induction paths generalizing targets tree with
  | nil =>
      obtain rfl := List.map_eq_nil_iff.1 h.symm
      rfl
  | cons path paths ih =>
      cases targets with
      | nil => cases h
      | cons t targets =>
          obtain ⟨ht, hrest⟩ := List.cons.inj h
          rw [List.foldl_cons, ← hedit path t ht]
          exact ih targets hrest _

theorem transform_fst (f : Json → Except String Json) {paths : List String}
    (targets : List Target) (h : paths.map Target.ofPath = targets.map .ok) (tree : Json) :
    (transform f paths tree).1 =
      targets.foldl (fun tree t => t.edit (alter · (rewritten f)) tree) tree :=
  editAll_fst (fun _ _ => transformPath_fst f) targets h tree

theorem delete_fst {paths : List String} (targets : List Target)
    (h : paths.map Target.ofPath = targets.map .ok) (tree : Json) :
    (delete paths tree).1 = targets.foldl (fun tree t => t.edit erase tree) tree :=
  editAll_fst (fun _ _ => deletePath_fst) targets h tree

/-! ## On objects -/

/-- An object changed by a function; every other value stays as it is. -/
def onObject (f : Object → Object) : Json → Json
  | .obj o => .obj (f o)
  | v => v

@[simp] theorem onObject_obj (f : Object → Object) (o : Object) :
    onObject f (.obj o) = .obj (f o) := rfl

theorem onObject_onObject (f g : Object → Object) (v : Json) :
    onObject f (onObject g v) = onObject (fun o => f (g o)) v := by
  cases v <;> rfl

theorem object?_onObject (f : Object → Object) (v : Json) :
    (onObject f v).object? = v.object?.map f := by
  cases v <;> rfl

theorem bind_object?_map_onObject (f : Object → Object) (v : Option Json) :
    (v.map (onObject f)).bind object? = (v.bind object?).map f := by
  cases v with
  | none => rfl
  | some v => exact object?_onObject f v

/-- Where a segment is no position in a list, it leads somewhere in objects only. -/
theorem child?_eq_none {segment : String} (h : index? segment = none) {tree : Json}
    (htree : ∀ o, tree ≠ .obj o) : child? segment tree = none := by
  cases tree with
  | obj o => exact absurd rfl (htree o)
  | arr items => simp [child?, h]
  | _ => rfl

theorem alterChild_eq_onObject {key : String} (hkey : index? key = none) (f : Json → Json) :
    alterChild key f = onObject fun o => o.alter key f := by
  funext tree
  cases tree with
  | obj o => exact alterChild_obj key f o
  | _ => rw [alterChild, child?_eq_none hkey (by simp)]; rfl

theorem erase_obj (key : String) (o : Object) : erase [key] (.obj o) = .obj (o.erase key) := by
  rw [erase, take?, removeChild?]
  cases h : o.get? key with
  | none => exact congrArg Json.obj (Members.erase_eq_self h).symm
  | some v => rfl

theorem erase_eq_onObject {key : String} (hkey : index? key = none) :
    erase [key] = onObject fun o => o.erase key := by
  funext tree
  cases tree with
  | obj o => exact erase_obj key o
  | arr items => simp [erase, take?, removeChild?, hkey, onObject]
  | _ => rfl

theorem set_obj {key : String} (hkey : key.isEmpty = false) (v : Json) (o : Object) :
    set [key] v (.obj o) = .ok (.obj (o.insert key v)) := by
  have hcan : canSet [key] (.obj o) = true := by
    rw [canSet]
    cases o.get? key <;> rfl
  have hwrite : write? [key] v (.obj o) = some (.obj (o.insert key v)) := by
    rw [write?]
    cases o.get? key <;> rfl
  simp [set, hkey, hcan, hwrite]

theorem relocate_eq_onObject {source target : String} (hsource : index? source = none)
    (htarget : target.isEmpty = false) :
    relocate [source] [target] = onObject fun o => o.move source target := by
  funext tree
  cases tree with
  | obj o =>
      rw [relocate, onObject, Members.move, lookup?, child?]
      cases o.get? source with
      | none => rfl
      | some v =>
          simp only [Option.bind_some, lookup?, set_obj htarget]
          exact erase_obj ..
  | _ =>
      rw [relocate, lookup?, child?_eq_none hsource (by simp)]
      rfl

/-! ## On the elements of lists -/

theorem alterItems_alterItems (f g : Json → Json) (v : Json) :
    alterItems f (alterItems g v) = alterItems (fun item => f (g item)) v := by
  have hunpack := unpack_unpack v
  simp only [alterItems]
  generalize unpack v = w at hunpack ⊢
  cases w with
  | arr items => simp [unpack]
  | _ => simp [hunpack]

end Json

end ClusterEvents
