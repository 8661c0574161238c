import ClusterEvents.Text.Cut

/-!
# Texts put together from pieces

Where a mark is in none of the pieces of a text, the text is cut into them again
(`splitOn_intercalate`), and what is behind its last mark is known from the text
(`append_cons_inj`).
-/

namespace ClusterEvents.Text

variable {sep : Char}

theorem splitOn_of_not_mem {piece : List Char} (h : sep ∉ piece) : splitOn sep piece = [piece] := by
  induction piece with
  | nil => rfl
  | cons c piece ih =>
      obtain ⟨hc, hpiece⟩ := not_or.1 (mt List.mem_cons.2 h)
      rw [splitOn, if_neg (Ne.symm hc), ih hpiece]

theorem splitOn_append_cons {piece : List Char} (h : sep ∉ piece) (rest : List Char) :
    splitOn sep (piece ++ sep :: rest) = piece :: splitOn sep rest := by
  induction piece with
  | nil => rw [List.nil_append, splitOn, if_pos rfl]
  | cons c piece ih =>
      obtain ⟨hc, hpiece⟩ := not_or.1 (mt List.mem_cons.2 h)
      rw [List.cons_append, splitOn, if_neg (Ne.symm hc), ih hpiece]

/-- Pieces that are joined by a character they do not have are found again. -/
theorem splitOn_intercalate {pieces : List (List Char)} (hne : pieces ≠ [])
    (h : ∀ piece ∈ pieces, sep ∉ piece) : splitOn sep ([sep].intercalate pieces) = pieces := by
  induction pieces with
  | nil => exact absurd rfl hne
  | cons piece pieces ih =>
      have hpiece := h piece List.mem_cons_self
      by_cases hlast : pieces = []
      · rw [hlast, List.intercalate_singleton, splitOn_of_not_mem hpiece]
      · rw [List.intercalate_cons_of_ne_nil hlast, List.append_assoc, List.singleton_append,
          splitOn_append_cons hpiece,
          ih hlast fun other hother => h other (List.mem_cons_of_mem piece hother)]

theorem mem_of_mem_splitOn {c : Char} {piece cs : List Char} (h : piece ∈ splitOn sep cs)
    (hc : c ∈ piece) : c ∈ cs := by
  induction cs generalizing piece with
  | nil =>
      obtain rfl := List.mem_singleton.1 h
      cases hc
  | cons d rest ih =>
      rw [splitOn] at h
      split at h
      · rcases List.mem_cons.1 h with rfl | h
        · cases hc
        · exact List.mem_cons_of_mem d (ih h hc)
      · split at h
        · obtain rfl := List.mem_singleton.1 h
          exact List.mem_cons.2 (.inl (List.mem_singleton.1 hc))
        · rename_i first pieces hpieces
          rcases List.mem_cons.1 h with rfl | h
          · rcases List.mem_cons.1 hc with rfl | hc
            · exact List.mem_cons_self
            · exact List.mem_cons_of_mem d (ih (hpieces ▸ List.mem_cons_self) hc)
          · exact List.mem_cons_of_mem d (ih (hpieces ▸ List.mem_cons_of_mem first h) hc)

/-- The last character of a kind cuts a text in one way only. -/
theorem append_cons_inj {p : Char → Prop} {l l' r r' : List Char} {c c' : Char} (hc : p c)
    (hc' : p c') (hr : ∀ d ∈ r, ¬ p d) (hr' : ∀ d ∈ r', ¬ p d) (h : l ++ c :: r = l' ++ c' :: r') :
    l = l' ∧ c = c' ∧ r = r' := by
  -- A longer front would have the other's mark in what is behind its own.
  rcases List.append_eq_append_iff.1 h with ⟨front, rfl, hback⟩ | ⟨front, rfl, hback⟩
  · cases front with
    | nil =>
        obtain ⟨rfl, rfl⟩ := List.cons.inj hback
        exact ⟨(List.append_nil l).symm, rfl, rfl⟩
    | cons d front =>
        obtain ⟨-, rfl⟩ := List.cons.inj hback
        exact absurd hc' (hr c' (by simp))
  · cases front with
    | nil =>
        obtain ⟨rfl, rfl⟩ := List.cons.inj hback
        exact ⟨List.append_nil l', rfl, rfl⟩
    | cons d front =>
        obtain ⟨-, rfl⟩ := List.cons.inj hback
        exact absurd hc (hr' c (by simp))

end ClusterEvents.Text
