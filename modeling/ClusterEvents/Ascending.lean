/-!
# Entries in ascending order of keys

A list of keyed entries that is kept in ascending order by `put`. Looking up after a
`put` is `get?_put`, which needs no assumption on the order; `pairwise_put` says that
`put` keeps the order.
-/

namespace ClusterEvents.Ascending

variable {κ α : Type} [DecidableEq κ]

/-- The value under a key. -/
def get? (key : κ) : List (κ × α) → Option α
  | [] => none
  | (k, v) :: rest => if key = k then some v else get? key rest

/-- Puts a value under a key, in place of the one that was there. -/
def put [LT κ] [DecidableLT κ] (key : κ) (value : α) : List (κ × α) → List (κ × α)
  | [] => [(key, value)]
  | (k, v) :: rest =>
    if key < k then (key, value) :: (k, v) :: rest
    else if key = k then (key, value) :: rest
    else (k, v) :: put key value rest

/-- The entries without the one under a key. -/
def erase (key : κ) (entries : List (κ × α)) : List (κ × α) :=
  entries.filter fun entry => entry.1 ≠ key

theorem get?_put [LT κ] [DecidableLT κ] (key : κ) (value : α) (entries : List (κ × α))
    (other : κ) :
    get? other (put key value entries) =
      if other = key then some value else get? other entries := by
  induction entries with
  | nil => simp [put, get?]
  | cons entry rest ih =>
    obtain ⟨k, v⟩ := entry
    rw [put]
    split
    · simp only [get?]
    · split
      · rename_i heq
        subst heq
        by_cases h : other = key <;> simp [get?, h]
      · rename_i hne
        by_cases h : other = k
        · have hne' : k ≠ key := fun e => hne e.symm
          simp [get?, h, hne']
        · simp [get?, h, ih]

theorem get?_erase (key : κ) (entries : List (κ × α)) (other : κ) :
    get? other (erase key entries) = if other = key then none else get? other entries := by
  induction entries with
  | nil => simp [erase, get?]
  | cons entry rest ih =>
    obtain ⟨k, v⟩ := entry
    by_cases hk : k = key
    · subst hk
      have he : erase k ((k, v) :: rest) = erase k rest := by simp [erase]
      rw [he, ih]
      by_cases h : other = k <;> simp [get?, h]
    · have he : erase key ((k, v) :: rest) = (k, v) :: erase key rest := by simp [erase, hk]
      rw [he, get?, ih, get?]
      by_cases h : other = k
      · simp [h, hk]
      · simp [h]

/-- The keys after a `put` are the key and those that were there. -/
theorem mem_put [LT κ] [DecidableLT κ] {key : κ} {value : α} {entries : List (κ × α)}
    {entry : κ × α} (h : entry ∈ put key value entries) :
    entry = (key, value) ∨ entry ∈ entries := by
  induction entries with
  | nil => simpa [put] using h
  | cons head rest ih =>
    obtain ⟨k, v⟩ := head
    rw [put] at h
    split at h
    · simpa using h
    · split at h
      · rcases List.mem_cons.1 h with h | h
        · exact .inl h
        · exact .inr (List.mem_cons_of_mem _ h)
      · rcases List.mem_cons.1 h with h | h
        · exact .inr (h ▸ List.mem_cons_self)
        · rcases ih h with h | h
          · exact .inl h
          · exact .inr (List.mem_cons_of_mem _ h)

/-- A `put` keeps the order of keys, in a total order. -/
theorem pairwise_put [LT κ] [DecidableLT κ]
    (trans : ∀ {a b c : κ}, a < b → b < c → a < c)
    (total : ∀ {a b : κ}, ¬ a < b → a ≠ b → b < a) (key : κ) (value : α)
    {entries : List (κ × α)} (h : entries.Pairwise fun a b => a.1 < b.1) :
    (put key value entries).Pairwise fun a b => a.1 < b.1 := by
  induction entries with
  | nil => simp [put]
  | cons head rest ih =>
    obtain ⟨k, v⟩ := head
    obtain ⟨hhead, hrest⟩ := List.pairwise_cons.1 h
    rw [put]
    split
    · rename_i hlt
      refine List.pairwise_cons.2 ⟨fun entry hm => ?_, h⟩
      rcases List.mem_cons.1 hm with hm | hm
      · exact hm ▸ hlt
      · exact trans hlt (hhead entry hm)
    · split
      · rename_i heq
        subst heq
        exact List.pairwise_cons.2 ⟨hhead, hrest⟩
      · rename_i hge hne
        refine List.pairwise_cons.2 ⟨fun entry hm => ?_, ih hrest⟩
        rcases mem_put hm with hm | hm
        · exact hm ▸ total hge hne
        · exact hhead entry hm

end ClusterEvents.Ascending
