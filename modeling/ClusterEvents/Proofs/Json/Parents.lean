import ClusterEvents.Proofs.Json.Alter

/-!
# Parents that are not lists

A path into a list may lead to something that is not a list, which is reported, once and for the
parent (`editEach_of_mem`). The parent has been unpacked by then, and is left that way: if it is
a text that holds an object, the object stays in its place. `run_fst_eq_self_iff` says that this
is the only case in which a reported parent is changed, for all edits that go into a list.
-/

namespace ClusterEvents.Json

variable {tree v : Json} {path parent : String}

/-! ## Unpacking in place -/

/-- What is no list when unpacked is left alone by that unless it is a text that holds an
object. -/
theorem unpack_eq_self_iff_of_not_list (hlist : ∀ items, unpack v ≠ .arr items) :
    unpack v = v ↔ ∀ s o, v = .str s → held? s ≠ some (.obj o) := by
  rw [unpack_eq_self_iff]
  refine forall_congr' fun s => ⟨fun h o hs => ?_, fun h hs => ?_⟩
  · simp [h hs]
  · subst hs
    cases hheld : held? s with
    | none => rfl
    | some c =>
        obtain ⟨-, hc⟩ := held?_eq_some_iff.1 hheld
        rw [unpack_str, hheld, Option.getD_some] at hlist
        cases c with
        | obj o => exact absurd hheld (h o rfl)
        | arr items => exact absurd rfl (hlist items)
        | _ => cases hc

/-! ## Reports of parents -/

/-- An edit that never reports a parent, as those of single values. -/
def SparesParents (edit : Json → Edited) : Prop :=
  ∀ path item, EditError.notAList path ∉ (edit item).2

theorem sparesParents_transformAt (f : Json → Except String Json) (label path : String) :
    SparesParents (transformAt f label path) := by
  intro reported item
  rw [transformAt]
  cases lookup? (Location.ofPath path) item with
  | none => simp
  | some v =>
      dsimp only
      cases f (unpack v) <;> simp

theorem sparesParents_moveValue (source target : String) :
    SparesParents (moveValue source target) := by
  intro reported item
  rw [moveValue]
  split
  · simp
  · cases lookup? (Location.ofPath source) item with
    | none => simp
    | some v =>
        dsimp only
        cases set (Location.ofPath target) (unpack v) item <;> simp

theorem SparesParents.editItems {edit : Json → Edited} (h : SparesParents edit)
    (path : String) (items : List Json) : .notAList path ∉ (editItems edit items).2 := by
  rw [editItems_snd, List.mem_flatMap]
  rintro ⟨item, -, hmem⟩
  exact h path item hmem

/-- If a parent is reported, it is no list, and nothing has been done but to unpack it. -/
theorem editEach_of_mem {edit : Json → Edited} (hedit : SparesParents edit)
    (h : .notAList path ∈ (editEach parent edit tree).2) :
    ∃ v, lookup? (Location.ofPath parent) tree = some v ∧ (∀ items, unpack v ≠ .arr items) ∧
      editEach parent edit tree =
        (replace (Location.ofPath parent) (unpack v) tree, [.notAList parent]) := by
  rw [editEach] at h ⊢
  cases hv : lookup? (Location.ofPath parent) tree with
  | none => simp [hv] at h
  | some v =>
      refine ⟨v, rfl, ?_⟩
      simp only [hv] at h ⊢
      cases hunpack : unpack v with
      | arr items =>
          simp only [hunpack] at h
          exact absurd h (hedit.editItems path items)
      | _ => exact ⟨by simp, rfl⟩

/-! ## Edits into lists -/

/-- An edit of what one path addresses, or a move between two. -/
inductive Edit where
  | delete (path : String)
  | transform (f : Json → Except String Json) (path : String)
  | rename (source target : String)

namespace Edit

/-- Makes the edit. -/
def run : Edit → Json → Edited
  | delete path => Json.delete [path]
  | transform f path => Json.transform f [path]
  | rename source target => Json.rename [(source, target)]

/-- Where the list is that the edit goes into, if it goes into one. -/
def parent? : Edit → Option String
  | delete path | transform _ path =>
    match Selector.ofPath path with
    | .ok (.each parent _) => some parent
    | _ => none
  | rename source target =>
    match Selector.ofPath source, Selector.ofPath target with
    | .ok (.each parent _), .ok (.each other _) => if parent = other then some parent else none
    | _, _ => none

/-- Every edit into a list edits each of the elements in turn. -/
theorem exists_editEach {e : Edit} (h : e.parent? = some parent) :
    ∃ edit, SparesParents edit ∧ ∀ tree, e.run tree = editEach parent edit tree := by
  cases e with
  | delete path =>
      rw [parent?] at h
      split at h
      · rename_i child hpath
        obtain rfl := Option.some.inj h
        refine ⟨fun item => (erase (Location.ofPath child) item, []), fun _ _ => by simp, ?_⟩
        intro tree
        simp [run, Json.delete, editAll_singleton, deletePath, hpath]
      · cases h
  | transform f path =>
      rw [parent?] at h
      split at h
      · rename_i child hpath
        obtain rfl := Option.some.inj h
        refine ⟨_, sparesParents_transformAt f path child, fun tree => ?_⟩
        simp [run, Json.transform, editAll_singleton, transformPath, hpath]
      · cases h
  | rename source target =>
      rw [parent?] at h
      split at h
      · rename_i child other child' hsource htarget
        split at h
        · rename_i heq
          obtain rfl := Option.some.inj h
          refine ⟨_, sparesParents_moveValue child child', fun tree => ?_⟩
          simp [run, Json.rename, editAll_singleton, renamePair, hsource, htarget, heq]
        · cases h
      · cases h

/-- An edit into a list that reports its parent leaves the tree as it was, unless the parent is a
text that holds an object. -/
theorem run_fst_eq_self_iff {e : Edit} (hparent : e.parent? = some parent)
    (hreport : .notAList path ∈ (e.run tree).2) :
    (e.run tree).1 = tree ↔
      ∀ s o, lookup? (Location.ofPath parent) tree = some (.str s) → held? s ≠ some (.obj o) := by
  obtain ⟨edit, hedit, hrun⟩ := exists_editEach hparent
  rw [hrun] at hreport ⊢
  obtain ⟨v, hv, hlist, heq⟩ := editEach_of_mem hedit hreport
  rw [heq, replace_eq_self_iff hv, unpack_eq_self_iff_of_not_list hlist]
  simp [hv]

/-- A text that holds nothing is reported, and stays. -/
theorem run_fst_of_text :
    ((rename "a[*].b" "a[*].c").run (.obj (Object.ofList [("a", .str "x")]))).1 =
        .obj (Object.ofList [("a", .str "x")]) ↔
      ∀ s o, lookup? (Location.ofPath "a") (.obj (Object.ofList [("a", .str "x")])) =
        some (.str s) → held? s ≠ some (.obj o) :=
  run_fst_eq_self_iff rfl (List.mem_singleton.2 rfl)

/-- A text that holds an object is reported, and yet the object is put in its place. -/
theorem reported_changed :
    ¬ ∀ (e : Edit) (parent path : String) (tree : Json), e.parent? = some parent →
      .notAList path ∈ (e.run tree).2 → (e.run tree).1 = tree := by
  intro hall
  have hsame := hall (delete "a[*].b") "a" "a"
    (.obj (Object.ofList [("a", .str "\x7b\"b\":1\x7d")])) rfl (List.mem_singleton.2 rfl)
  have hput : ((delete "a[*].b").run
      (.obj (Object.ofList [("a", .str "\x7b\"b\":1\x7d")]))).1 =
        .obj (Object.ofList [("a", .obj (Object.ofList [("b", .int 1)]))]) := rfl
  rw [hput] at hsame
  cases hsame

end Edit

end ClusterEvents.Json
