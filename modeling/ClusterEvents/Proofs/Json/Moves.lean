import ClusterEvents.Proofs.Json.Writes

/-!
# Moves along paths that meet

A value is moved by writing it at the target and erasing what is at the source then. Where the
two locations go different ways, the value is at the target afterwards. Where they meet, the
second step may take away what the first has written, or shift the elements of a list under it,
and nothing is reported. `Loses` tells these cases, one constructor for each, and
`lookup?_rename_iff` says that there are no others.
-/

namespace ClusterEvents.Json

variable {a b source target : String} {rest : Location} {tree tree' child v w : Json}

/-- A move of the value `w` from the first location to the second does not leave it there. -/
inductive Loses (w : Json) : Location → Location → Json → Prop
  /-- The value is written above its source and has something there itself, which is erased. -/
  | above {source : Location} {inner : Json} (hne : source ≠ [])
      (hinner : lookup? source w = some inner) (tree : Json) : Loses w source [] tree
  /-- The value is written into, or over, the member that is erased. -/
  | member (key : String) (rest : Location) (o : Object) : Loses w [key] (key :: rest) (.obj o)
  /-- The element that is erased comes before the one that the value is written into, or is the
  same. The next element moves up, and only by chance it has the value, too. -/
  | element {a b : String} {rest : Location} {items : List Json} {i j : Nat}
      (ha : index? a = some i) (hb : index? b = some j) (hle : i ≤ j)
      (hnext : items[j + 1]?.bind (lookup? rest) ≠ some w) : Loses w [a] (b :: rest) (.arr items)
  /-- The value is lost further down, in the slot that both locations lead through. -/
  | inside {a b : String} {source target : Location} {tree child : Json} (hne : source ≠ [])
      (hsame : SameSlot a b tree) (hchild : child? a tree = some child)
      (h : Loses w source target child) : Loses w (a :: source) (b :: target) tree

/-! ## Each case by itself -/

theorem loses_nil_iff {source : Location} (hne : source ≠ []) :
    Loses w source [] tree ↔ lookup? source w ≠ none := by
  constructor
  · rintro ⟨-, hinner, -⟩
    simp [hinner]
  · intro h
    obtain ⟨inner, hinner⟩ := Option.ne_none_iff_exists'.1 h
    exact .above hne hinner tree

theorem loses_obj_iff {o : Object} : Loses w [a] (b :: rest) (.obj o) ↔ a = b := by
  constructor
  · intro h
    cases h with
    | member => rfl
    | inside hne => exact absurd rfl hne
  · rintro rfl
    exact .member a rest o

theorem loses_arr_iff {items : List Json} {i j : Nat} (ha : index? a = some i)
    (hb : index? b = some j) :
    Loses w [a] (b :: rest) (.arr items) ↔
      i ≤ j ∧ items[j + 1]?.bind (lookup? rest) ≠ some w := by
  constructor
  · intro h
    cases h with
    | element ha' hb' hle hnext =>
        obtain rfl := Option.some.inj (ha.symm.trans ha')
        obtain rfl := Option.some.inj (hb.symm.trans hb')
        exact ⟨hle, hnext⟩
    | inside hne => exact absurd rfl hne
  · exact fun h => .element ha hb h.1 h.2

theorem loses_cons_iff {source target : Location} (hne : source ≠ []) :
    Loses w (a :: source) (b :: target) tree ↔
      SameSlot a b tree ∧
        ∃ child, child? a tree = some child ∧ Loses w source target child := by
  constructor
  · intro h
    cases h with
    | member => exact absurd rfl hne
    | element => exact absurd rfl hne
    | inside _ hsame hchild h => exact ⟨hsame, _, hchild, h⟩
  · rintro ⟨hsame, child, hchild, h⟩
    exact .inside hne hsame hchild h

/-! ## Writing and then erasing -/

/-- What is in a slot after an element, or a member, has been erased. -/
theorem lookup?_erase_singleton_iff (hwritten : WrittenAt b v tree tree')
    (hv : lookup? rest v = some w) (hchild : child? a tree = some child) :
    lookup? (b :: rest) (erase [a] tree') = some w ↔ ¬ Loses w [a] (b :: rest) tree := by
  cases hwritten with
  | member o =>
      rw [loses_obj_iff, erase_obj, lookup?, child?, Members.get?_erase, Members.get?_insert]
      by_cases hab : a = b
      · simp [hab]
      · simp [Ne.symm hab, hab, hv]
  | @element items items' j hb hitems =>
      obtain ⟨i, ha, -⟩ := Option.bind_eq_some_iff.1 hchild
      rw [loses_arr_iff ha hb, erase_arr ha, lookup?, child?, hb, Option.bind_some,
        List.getElem?_eraseIdx]
      by_cases hle : i ≤ j
      · simp [hle, Nat.not_lt.2 hle, hitems]
      · simp [hle, Nat.lt_of_not_le hle, hitems, hv]
  | null => cases hchild

theorem lookup?_erase_cons {source : Location} (hne : source ≠ [])
    (hchild : child? a tree = some child) :
    lookup? (b :: rest) (erase (a :: source) tree) =
      if SameSlot a b tree then lookup? rest (erase source child)
      else lookup? (b :: rest) tree := by
  rw [erase_cons hne hchild, lookup?, lookup?]
  split
  · rename_i hsame
    have hslot : SameSlot a b (setChild a (erase source child) tree) :=
      sameSlot_setChild.2 hsame
    rw [← hslot.child?, child?_setChild hchild, Option.bind_some]
  · rename_i hsame
    rw [child?_setChild_of_not_sameSlot hsame]

/-- What is written at one location, and then another one erased, is there exactly when the
value is not lost between them. The induction follows both locations as long as they lead through
the same slots. -/
theorem lookup?_erase_write?_iff {source target : Location} (hne : source ≠ [])
    (hsource : lookup? source tree = some v) (hwrite : write? target w tree = some tree') :
    lookup? target (erase source tree') = some w ↔ ¬ Loses w source target tree := by
  induction source generalizing target tree tree' with
  | nil => exact absurd rfl hne
  | cons a source ih =>
      obtain ⟨child, hchild, hbelow⟩ := Option.bind_eq_some_iff.1 hsource
      cases target with
      | nil =>
          obtain rfl := Option.some.inj hwrite
          rw [loses_nil_iff hne, Classical.not_not, lookup?, Option.some_inj]
          exact erase_eq_self_iff hne
      | cons b target =>
          by_cases hnil : source = []
          · obtain ⟨v', hwritten, hv'⟩ := exists_writtenAt hwrite
            rw [hnil]
            exact lookup?_erase_singleton_iff hwritten hv' hchild
          rw [loses_cons_iff hnil]
          by_cases hsame : SameSlot a b tree
          · obtain ⟨v', hwritten, hv'⟩ :=
              write?_cons_of_child? hwrite (hsame.child?.symm.trans hchild)
            have hsame' := hwritten.sameSlot_iff.2 hsame
            rw [lookup?_erase_cons hnil (hsame'.child?.trans hwritten.child?), if_pos hsame',
              ih hnil hbelow hv']
            simp [hsame, hchild]
          · obtain ⟨v', hwritten, -⟩ := write?_cons hwrite
            have hkept := hwritten.child?_of_not_sameSlot hsame (by simp [hchild])
            rw [lookup?_erase_cons hnil (hkept.trans hchild),
              if_neg (mt hwritten.sameSlot_iff.1 hsame), lookup?_write? hwrite]
            simp [hsame]

/-! ## Renaming -/

theorem rename_singleton (hsource : Selector.ofPath source = .ok (.single source))
    (htarget : Selector.ofPath target = .ok (.single target)) (tree : Json) :
    rename [(source, target)] tree = moveValue source target tree := by
  simp [rename, editAll, renamePair, hsource, htarget]

theorem ofPath_ne_nil (path : String) : Location.ofPath path ≠ [] := by
  simp [Location.ofPath, Text.split, Text.splitOn_ne_nil]

/-- A value that is renamed, and nothing is reported, is found at its target exactly when it
is none of those that get lost on the way. -/
theorem lookup?_rename_iff (hne : source ≠ target)
    (hsource : Selector.ofPath source = .ok (.single source))
    (htarget : Selector.ofPath target = .ok (.single target))
    (hv : lookup? (Location.ofPath source) tree = some v)
    (hreports : (rename [(source, target)] tree).2 = []) :
    lookup? (Location.ofPath target) (rename [(source, target)] tree).1 = some (unpack v) ↔
      ¬ Loses (unpack v) (Location.ofPath source) (Location.ofPath target) tree := by
  rw [rename_singleton hsource htarget, moveValue, if_neg hne] at hreports ⊢
  simp only [hv] at hreports ⊢
  cases hset : set (Location.ofPath target) (unpack v) tree with
  | error fault =>
      rw [hset] at hreports
      cases hreports
  | ok written => exact lookup?_erase_write?_iff (ofPath_ne_nil source) hv (write?_of_set hset)

/-- The second element of a list is moved over the first. -/
theorem lookup?_rename_up :
    lookup? (Location.ofPath "l.0") (rename [("l.1", "l.0")]
        (.obj (Object.ofList [("l", .arr [.str "x", .str "[]"])]))).1 =
      some (unpack (.str "[]")) ↔
    ¬ Loses (unpack (.str "[]")) (Location.ofPath "l.1") (Location.ofPath "l.0")
      (.obj (Object.ofList [("l", .arr [.str "x", .str "[]"])])) :=
  lookup?_rename_iff (by decide) rfl rfl rfl rfl

/-- A value that is moved below itself is gone, and nothing is reported. -/
theorem rename_loses :
    ¬ ∀ (source target : String) (tree v : Json), source ≠ target →
      Selector.ofPath source = .ok (.single source) →
      Selector.ofPath target = .ok (.single target) →
      lookup? (Location.ofPath source) tree = some v →
      (rename [(source, target)] tree).2 = [] →
      lookup? (Location.ofPath target) (rename [(source, target)] tree).1 = some (unpack v) := by
  intro hall
  have hfound := hall "a" "a.b"
    (.obj (Object.ofList [("a", .obj (Object.ofList [("x", .str "y")]))]))
    (.obj (Object.ofList [("x", .str "y")])) (by decide) rfl rfl rfl rfl
  have hlost : (rename [("a", "a.b")]
      (.obj (Object.ofList [("a", .obj (Object.ofList [("x", .str "y")]))]))).1 =
        .obj Object.empty := rfl
  rw [hlost] at hfound
  cases hfound

end ClusterEvents.Json
