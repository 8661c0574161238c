import Mathlib.Data.List.Sort
import ClusterEvents.Ascending
import ClusterEvents.Json.Basic

/-!
# Entries in the order of texts

Where entries ascend by their keys, which are texts, they are just what is found under the keys:
each entry is found (`get?_eq_some_iff`), and entries with which the same is found are the same
(`eq_of_get?_eq`). Putting an entry keeps the order, and leaving out entries by their keys leaves
what is found under the others.
-/

namespace ClusterEvents.Ascending

variable {α : Type}

theorem mem_of_get? {key : String} {v : α} {entries : List (String × α)}
    (h : get? key entries = some v) : (key, v) ∈ entries := by
  induction entries with
  | nil => cases h
  | cons entry rest ih =>
      rw [get?] at h
      split at h
      · rename_i heq
        rw [heq, ← Option.some.inj h]
        exact List.mem_cons_self
      · exact List.mem_cons_of_mem _ (ih h)

/-- Where keys ascend, the entries are what is found. -/
theorem get?_eq_some_iff {entries : List (String × α)}
    (h : entries.Pairwise fun a b => a.1 < b.1) {key : String} {v : α} :
    get? key entries = some v ↔ (key, v) ∈ entries := by
  refine ⟨mem_of_get?, fun hmem => ?_⟩
  induction entries with
  | nil => cases hmem
  | cons entry rest ih =>
      obtain ⟨hhead, hrest⟩ := List.pairwise_cons.1 h
      rw [get?]
      rcases List.mem_cons.1 hmem with rfl | hmem
      · rw [if_pos rfl]
      · have hne : key ≠ entry.1 := fun heq =>
          String.lt_irrefl entry.1 (heq ▸ hhead (key, v) hmem)
        rw [if_neg hne]
        exact ih hrest hmem

theorem put_pairwise {entries : List (String × α)}
    (h : entries.Pairwise fun a b => a.1 < b.1) (key : String) (v : α) :
    (put key v entries).Pairwise fun a b => a.1 < b.1 :=
  pairwise_put String.lt_trans lt_of_not_lt_of_ne key v h

/-- Where keys ascend, what is found determines the entries. -/
theorem eq_of_get?_eq {entries others : List (String × α)}
    (h : entries.Pairwise fun a b => a.1 < b.1) (h' : others.Pairwise fun a b => a.1 < b.1)
    (hget : ∀ key, get? key entries = get? key others) : entries = others := by
  have hantisymm : Std.Antisymm fun a b : String × α => a.1 < b.1 :=
    ⟨fun _ _ hab hba => absurd hba (String.lt_asymm hab)⟩
  have hirrefl : Std.Irrefl fun a b : String × α => a.1 < b.1 := ⟨fun _ => String.lt_irrefl _⟩
  refine h.eq_of_mem_iff h' fun ⟨key, v⟩ => ?_
  rw [← get?_eq_some_iff h, ← get?_eq_some_iff h', hget]

theorem get?_filter (p : String → Bool) (entries : List (String × α)) (key : String) :
    get? key (entries.filter fun entry => p entry.1) =
      if p key then get? key entries else none := by
  induction entries with
  | nil => simp [get?]
  | cons entry rest ih =>
      obtain ⟨k, v⟩ := entry
      by_cases hk : key = k
      · subst hk
        by_cases hp : p key = true
        · simp [hp, get?]
        · simp [hp, ih]
      · by_cases hp : p k = true
        · simp [hp, hk, get?, ih]
        · simp [hp, hk, get?, ih]

theorem get?_eq_none_of_forall_lt {key : String} {entries : List (String × α)}
    (h : ∀ entry ∈ entries, key < entry.1) : get? key entries = none := by
  refine Option.eq_none_iff_forall_ne_some.2 fun v hv => ?_
  exact String.lt_irrefl key (h (key, v) (mem_of_get? hv))

end ClusterEvents.Ascending
