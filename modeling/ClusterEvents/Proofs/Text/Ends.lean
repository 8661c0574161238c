import Mathlib.Data.List.DropRight
import Mathlib.Data.List.TakeWhile
import ClusterEvents.Proofs.Stretches
import ClusterEvents.Text.Blank

/-!
# The ends of a text

Trimming takes the longest stretches of some kind of characters off the ends. So a text that has
none of the kind at its own ends is left of another just if the other is that text with characters
of the kind around it (`trimBy_eq_iff`). Nothing is left of blanks only (`trim_eq_empty_iff`).
-/

namespace ClusterEvents.Text

variable {p : Char → Bool} {cs text front back : List Char}

theorem trimBy_eq_rdropWhile (p : Char → Bool) (cs : List Char) :
    trimBy p cs = (cs.dropWhile p).rdropWhile p :=
  rfl

/-- Trimming takes a stretch of characters off either end. -/
theorem exists_append_trimBy (p : Char → Bool) (cs : List Char) :
    ∃ front back, cs = front ++ trimBy p cs ++ back ∧ (∀ c ∈ front, p c = true) ∧
      ∀ c ∈ back, p c = true := by
  refine ⟨cs.takeWhile p, (cs.dropWhile p).rtakeWhile p, ?_, fun _ => List.mem_takeWhile_imp,
    fun _ => List.mem_rtakeWhile_imp⟩
  rw [trimBy_eq_rdropWhile, List.append_assoc, List.rdropWhile_append_rtakeWhile,
    List.takeWhile_append_dropWhile]

theorem trimBy_append (hhead : ∀ c ∈ text.head?, p c = false)
    (hlast : ∀ c ∈ text.getLast?, p c = false) (hfront : ∀ c ∈ front, p c = true)
    (hback : ∀ c ∈ back, p c = true) : trimBy p (front ++ text ++ back) = text := by
  have hreverse : ∀ c ∈ back.reverse, p c = true := fun c hc => hback c (List.mem_reverse.1 hc)
  rw [← List.head?_reverse] at hlast
  cases text with
  | nil =>
      have hall : ∀ c ∈ front ++ back, p c = true := List.forall_mem_append.2 ⟨hfront, hback⟩
      rw [List.append_nil, trimBy, List.dropWhile_eq_nil_iff.2 hall]
      rfl
  | cons c text =>
      have hhead' : ∀ d ∈ (c :: text ++ back).head?, p d = false := hhead
      rw [trimBy, List.append_assoc, dropWhile_append_eq hfront hhead', List.reverse_append,
        dropWhile_append_eq hreverse hlast, List.reverse_reverse]

/-- What has none of the kind at its ends is left of just the texts that have it inside, between
characters of the kind. -/
theorem trimBy_eq_iff (hhead : ∀ c ∈ text.head?, p c = false)
    (hlast : ∀ c ∈ text.getLast?, p c = false) :
    trimBy p cs = text ↔ ∃ front back, cs = front ++ text ++ back ∧ (∀ c ∈ front, p c = true) ∧
      ∀ c ∈ back, p c = true := by
  constructor
  · rintro rfl
    exact exists_append_trimBy p cs
  · rintro ⟨front, back, rfl, hfront, hback⟩
    exact trimBy_append hhead hlast hfront hback

/-- Nothing is left of a text without the blanks at its ends just if it has nothing but blanks. -/
theorem trim_eq_empty_iff {s : String} : trim s = "" ↔ ∀ c ∈ s.toList, isBlank c = true := by
  rw [trim, String.ofList_eq_empty_iff, trimBy_eq_iff (by simp) (by simp)]
  constructor
  · rintro ⟨front, back, hs, hfront, hback⟩
    rw [hs, List.append_nil]
    exact List.forall_mem_append.2 ⟨hfront, hback⟩
  · intro h
    exact ⟨s.toList, [], by simp, h, List.forall_mem_nil _⟩

end ClusterEvents.Text
