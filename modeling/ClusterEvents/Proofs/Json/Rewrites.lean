import Mathlib.Data.List.Forall2
import ClusterEvents.Proofs.Json.Alter
import ClusterEvents.Proofs.Json.Frames

/-!
# What a rewriting changes

`Rewrites` says what a function makes of a tree at one location, one constructor for each outcome:
nothing is there, the value is rewritten, or the function refuses it. It never mentions how the
tree is rebuilt. What is outside the place has to agree with what was there before, and that and
the value at the place settle the tree (`replace_eq_iff`), so there is one outcome only, the one
that `transformAt` gives.

On a list every element is such a tree by itself (`RewritesEach`). Paths are taken one after the
other, whatever becomes of the earlier ones, `editAll_eq_foldl`. `transform_rewrites` puts the
three together.
-/

namespace ClusterEvents.Json

variable {f : Json → Except String Json} {label path : String} {tree tree' v w : Json}
  {location : Location} {edited : Edited}

/-! ## One location -/

/-- A tree in which only the value at one place has been changed is a replacement. -/
theorem replace_eq_iff (hv : lookup? location tree = some v) :
    replace location w tree = tree' ↔
      lookup? location tree' = some w ∧ AgreeOutside (placeOf location tree) tree tree' := by
  constructor
  · rintro rfl
    exact ⟨lookup?_replace hv, agreeOutside_replace hv w⟩
  · rintro ⟨hw, hagree⟩
    -- the location leads to the same place in both trees, and to the same value there
    refine (hagree.symm.trans (agreeOutside_replace hv w)).eq ?_
    rw [valueAt?_replace hv, ← hagree.placeOf_eq hv, valueAt?_placeOf, hw]

/-- What rewriting the value at a location by `f` makes of a tree, and what is reported. -/
inductive Rewrites (f : Json → Except String Json) (label : String) (location : Location)
    (tree : Json) : Edited → Prop
  /-- There is no value. -/
  | missing (hv : lookup? location tree = none) : Rewrites f label location tree (tree, [])
  /-- The value, unpacked, is what `f` is given, and what `f` gives is there afterwards. -/
  | rewritten {v new tree' : Json} (hv : lookup? location tree = some v)
      (hf : f (unpack v) = .ok new) (hnew : lookup? location tree' = some new)
      (hagree : AgreeOutside (placeOf location tree) tree tree') :
      Rewrites f label location tree (tree', [])
  /-- The value is refused and stays as it was, not unpacked. -/
  | refused {v : Json} {reason : String} (hv : lookup? location tree = some v)
      (hf : f (unpack v) = .error reason) :
      Rewrites f label location tree (tree, [.refused label reason])

theorem transformAt_eq_iff :
    transformAt f label path tree = edited ↔
      Rewrites f label (Location.ofPath path) tree edited := by
  rw [transformAt]
  constructor
  · rintro rfl
    cases hv : lookup? (Location.ofPath path) tree with
    | none => exact .missing hv
    | some v =>
        dsimp only
        cases hf : f (unpack v) with
        | ok new =>
            obtain ⟨hnew, hagree⟩ := (replace_eq_iff hv).1 (Eq.refl (replace _ new tree))
            exact .rewritten hv hf hnew hagree
        | error reason => exact .refused hv hf
  · rintro (hv | ⟨hv, hf, hnew, hagree⟩ | ⟨hv, hf⟩)
    · simp only [hv]
    · simp only [hv, hf, (replace_eq_iff hv).2 ⟨hnew, hagree⟩]
    · simp only [hv, hf]

/-! ## Every element of a list -/

theorem forall₂_iff_map_eq {α β : Type} {g : α → β} {R : α → β → Prop}
    (hR : ∀ a b, g a = b ↔ R a b) {as : List α} {bs : List β} :
    List.Forall₂ R as bs ↔ as.map g = bs := by
  simp only [← List.forall₂_eq_eq_eq, List.forall₂_map_left_iff, hR]

/-- What rewriting one location in every element of a list makes of the tree that the list is in:
each element is rewritten by itself, and all that happens elsewhere is that a text in the place of
the list becomes the list. -/
structure RewritesEach (f : Json → Except String Json) (label : String) (parent child : Location)
    (items : List Json) (tree : Json) (results : List Edited) (edited : Edited) : Prop where
  elements : List.Forall₂ (Rewrites f label child) items results
  list : lookup? parent edited.1 = some (.arr (results.map Prod.fst))
  outside : AgreeOutside (placeOf parent tree) tree edited.1
  reports : edited.2 = results.flatMap Prod.snd

theorem editEach_eq_iff {parent : String} {edit : Json → Edited} {items : List Json}
    (hv : lookup? (Location.ofPath parent) tree = some v) (hitems : unpack v = .arr items) :
    editEach parent edit tree = edited ↔
      replace (Location.ofPath parent) (.arr (editItems edit items).1) tree = edited.1 ∧
        (editItems edit items).2 = edited.2 := by
  simp only [editEach, hv, hitems, Prod.ext_iff]

theorem editEach_transformAt_eq_iff {parent child : String} {items : List Json}
    (hv : lookup? (Location.ofPath parent) tree = some v) (hitems : unpack v = .arr items) :
    editEach parent (transformAt f label child) tree = edited ↔
      ∃ results, RewritesEach f label (Location.ofPath parent) (Location.ofPath child) items tree
        results edited := by
  have hedits : ∀ results, List.Forall₂ (Rewrites f label (Location.ofPath child)) items results ↔
      items.map (transformAt f label child) = results := fun results =>
    forall₂_iff_map_eq fun item edited => transformAt_eq_iff
  rw [editEach_eq_iff hv hitems, replace_eq_iff hv, editItems_fst, editItems_snd]
  constructor
  · rintro ⟨⟨hlist, houtside⟩, hreports⟩
    refine ⟨_, (hedits _).2 rfl, ?_, houtside, ?_⟩
    · rw [hlist, List.map_map]
      rfl
    · rw [← hreports, List.flatMap_map]
  · rintro ⟨results, helements, hlist, houtside, hreports⟩
    obtain rfl := (hedits results).1 helements
    refine ⟨⟨?_, houtside⟩, ?_⟩
    · rw [hlist, List.map_map]
      rfl
    · rw [hreports, List.flatMap_map]

/-! ## One path after the other -/

/-- One more edit, with the reports of both. -/
def Edited.andThen (edited : Edited) (edit : Json → Edited) : Edited :=
  ((edit edited.1).1, edited.2 ++ (edit edited.1).2)

theorem andThen_andThen (edited : Edited) (edit edit' : Json → Edited) :
    (edited.andThen edit).andThen edit' = edited.andThen fun tree => (edit tree).andThen edit' := by
  simp [Edited.andThen]

/-- No edit keeps a later one from being made, or from reporting. -/
theorem editAll_eq_foldl {α : Type} (edit : α → Json → Edited) (as : List α) (tree : Json) :
    editAll edit as tree =
      as.foldl (fun edited a => Edited.andThen edited (edit a)) (tree, []) := by
  -- the edits that were made before stand in front
  suffices hfold : ∀ edited : Edited, as.foldl (fun edited a => edited.andThen (edit a)) edited =
      edited.andThen (editAll edit as) from (hfold (tree, [])).symm
  induction as with
  | nil => simp [Edited.andThen, editAll]
  | cons a as ih =>
      intro edited
      rw [List.foldl_cons, ih, andThen_andThen]
      rfl

/-! ## Rewriting what paths address -/

theorem transform_singleton (f : Json → Except String Json) (path : String) (tree : Json) :
    transform f [path] tree = transformPath f path tree :=
  editAll_singleton (transformPath f) path tree

/-- A path to one value rewrites that value. A path into a list, or into a text that holds one,
rewrites the value in every element; where the list is missing nothing happens. Several paths are
taken one after the other, and those that address nothing are reported in between. -/
theorem transform_rewrites (f : Json → Except String Json) :
    (∀ path tree edited, Selector.ofPath path = .ok (.single path) →
      (transform f [path] tree = edited ↔
        Rewrites f path (Location.ofPath path) tree edited)) ∧
    (∀ path parent child tree node items edited,
      Selector.ofPath path = .ok (.each parent child) →
      lookup? (Location.ofPath parent) tree = some node →
      (node = .arr items ∨ ∃ s, node = .str s ∧ held? s = some (.arr items)) →
      (transform f [path] tree = edited ↔
        ∃ results, RewritesEach f path (Location.ofPath parent) (Location.ofPath child) items tree
          results edited)) ∧
    (∀ path parent child tree, Selector.ofPath path = .ok (.each parent child) →
      lookup? (Location.ofPath parent) tree = none → transform f [path] tree = (tree, [])) ∧
    (∀ path fault tree, Selector.ofPath path = .error fault →
      transform f [path] tree = (tree, [.unsupported path fault])) ∧
    ∀ paths tree, transform f paths tree =
      paths.foldl (fun edited path => Edited.andThen edited (transform f [path])) (tree, []) := by
  refine ⟨fun path tree edited hpath => ?_, ?_, fun path parent child tree hpath hnode => ?_,
    fun path fault tree hpath => ?_, fun paths tree => ?_⟩
  · rw [transform_singleton, transformPath, hpath]
    exact transformAt_eq_iff
  · intro path parent child tree node items edited hpath hnode hitems
    rw [transform_singleton, transformPath, hpath]
    exact editEach_transformAt_eq_iff hnode (unpack_eq_arr_iff.2 hitems)
  · simp only [transform_singleton, transformPath, hpath, editEach, hnode]
  · rw [transform_singleton, transformPath, hpath]
  · have hone : (fun path => transform f [path]) = transformPath f :=
      funext fun path => funext (transform_singleton f path)
    rw [transform, editAll_eq_foldl, ← hone]

end ClusterEvents.Json
