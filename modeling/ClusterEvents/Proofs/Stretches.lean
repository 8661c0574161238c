/-!
# Stretches at the front of a list

What `takeWhile` takes is the longest stretch of some kind of elements at the front of a list. A
front of the kind is all of the stretch where the rest does not go on with the kind
(`takeWhile_append_eq`, `dropWhile_append_eq`), and a wider kind goes on where a narrower one has
come to its end (`takeWhile_of_imp`, `dropWhile_of_imp`).
-/

namespace ClusterEvents

variable {α : Type} {p q : α → Bool} {front rest l : List α}

theorem takeWhile_append_eq (hfront : ∀ a ∈ front, p a = true)
    (hrest : ∀ a ∈ rest.head?, p a = false) : (front ++ rest).takeWhile p = front := by
  rw [List.takeWhile_append_of_pos hfront]
  cases rest with
  | nil => exact List.append_nil front
  | cons a rest => rw [List.takeWhile_cons, hrest a rfl, if_neg Bool.false_ne_true, List.append_nil]

theorem dropWhile_append_eq (hfront : ∀ a ∈ front, p a = true)
    (hrest : ∀ a ∈ rest.head?, p a = false) : (front ++ rest).dropWhile p = rest := by
  rw [List.dropWhile_append_of_pos hfront]
  cases rest with
  | nil => rfl
  | cons a rest => rw [List.dropWhile_cons, hrest a rfl, if_neg Bool.false_ne_true]

theorem forall_takeWhile_of_imp (h : ∀ a, p a = true → q a = true) :
    ∀ a ∈ l.takeWhile p, q a = true :=
  fun a ha => h a (List.all_eq_true.1 List.all_takeWhile a ha)

theorem takeWhile_of_imp (h : ∀ a, p a = true → q a = true) :
    l.takeWhile q = l.takeWhile p ++ (l.dropWhile p).takeWhile q := by
  rw [← List.takeWhile_append_of_pos (forall_takeWhile_of_imp h), List.takeWhile_append_dropWhile]

theorem dropWhile_of_imp (h : ∀ a, p a = true → q a = true) :
    (l.dropWhile p).dropWhile q = l.dropWhile q := by
  rw [← List.dropWhile_append_of_pos (forall_takeWhile_of_imp h), List.takeWhile_append_dropWhile]

end ClusterEvents
