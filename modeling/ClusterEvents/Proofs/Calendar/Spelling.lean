import ClusterEvents.Calendar.Stamp

/-!
# How time stamps are spelled

A text that is read as a time stamp has ten characters for its date, then one that separates date
and time, and none of that kind behind it. What is read is a day of the calendar, a minute of the
day, a second up to sixty, and a distance of less than a day (`isProper_and_spelling`).

Each part of a time stamp has a lemma of its own, which says what is read of it and that no
separator is passed over.
-/

namespace ClusterEvents.Calendar.Stamp

/-- What may stand between date and time. -/
def IsSeparator (c : Char) : Prop :=
  c = 'T' ∨ c = 't' ∨ c = ' '

instance (c : Char) : Decidable (IsSeparator c) :=
  inferInstanceAs (Decidable (_ ∨ _ ∨ _))

/-- What is left of a text behind characters that are no separators. -/
def Passes (text rest : List Char) : Prop :=
  ∃ front, text = front ++ rest ∧ ∀ c ∈ front, ¬ IsSeparator c

/-- What time stamps that are read have in common. -/
structure IsProper (s : Stamp) : Prop where
  valid : s.date.Valid
  minute_lt : s.minute < 1440
  second_le : s.second ≤ 60
  lt_ahead : -1440 < s.ahead
  ahead_lt : s.ahead < 1440

variable {text rest : List Char}

namespace Passes

theorem refl (text : List Char) : Passes text text :=
  ⟨[], rfl, fun _ h => nomatch h⟩

theorem trans {middle : List Char} (h : Passes text middle) (h' : Passes middle rest) :
    Passes text rest := by
  obtain ⟨front, rfl, hfront⟩ := h
  obtain ⟨front', rfl, hfront'⟩ := h'
  refine ⟨front ++ front', (List.append_assoc ..).symm, fun c hc => ?_⟩
  rcases List.mem_append.1 hc with hc | hc
  · exact hfront c hc
  · exact hfront' c hc

theorem cons {c : Char} (hc : ¬ IsSeparator c) (h : Passes text rest) : Passes (c :: text) rest :=
  trans ⟨[c], rfl, fun _ hmem => List.mem_singleton.1 hmem ▸ hc⟩ h

theorem not_isSeparator (h : Passes text []) {c : Char} (hc : c ∈ text) : ¬ IsSeparator c := by
  obtain ⟨front, rfl, hfront⟩ := h
  exact hfront c (by simpa using hc)

end Passes

/-! ## Parts of a time stamp -/

theorem not_isSeparator_of_digit? {c : Char} {d : Nat} (h : digit? c = some d) :
    ¬ IsSeparator c := by
  rintro (rfl | rfl | rfl) <;> cases h

theorem passes_of_readNumber {n count k : Nat}
    (h : readNumber n count text = some (k, rest)) :
    Passes text rest ∧ text.length = rest.length + count := by
  induction count generalizing n text with
  | zero =>
      obtain ⟨-, rfl⟩ := Prod.mk.inj (Option.some.inj h)
      exact ⟨.refl text, rfl⟩
  | succ count ih =>
      cases text with
      | nil => cases h
      | cons c text =>
          simp only [readNumber, Option.bind_eq_bind, Option.bind_eq_some_iff] at h
          obtain ⟨d, hd, h⟩ := h
          obtain ⟨hpasses, hlength⟩ := ih h
          refine ⟨hpasses.cons (not_isSeparator_of_digit? hd), ?_⟩
          rw [List.length_cons, hlength, Nat.add_assoc]

theorem passes_of_readPair {low high k : Nat} (h : readPair low high text = some (k, rest)) :
    Passes text rest ∧ text.length = rest.length + 2 ∧ low ≤ k ∧ k ≤ high := by
  simp only [readPair, Option.bind_eq_bind, Option.bind_eq_some_iff, Prod.exists,
    Option.ite_none_right_eq_some, Option.some.injEq, Prod.mk.injEq] at h
  obtain ⟨_, _, hnumber, ⟨hlow, hhigh⟩, rfl, rfl⟩ := h
  obtain ⟨hpasses, hlength⟩ := passes_of_readNumber hnumber
  exact ⟨hpasses, hlength, hlow, hhigh⟩

theorem eq_cons_of_pass {mark : Char} (h : pass mark text = some rest) : text = mark :: rest := by
  cases text with
  | nil => cases h
  | cons c text =>
      simp only [pass, Option.ite_none_right_eq_some, Option.some.injEq] at h
      obtain ⟨rfl, rfl⟩ := h
      rfl

theorem of_readDate {date : Date} (h : readDate text = some (date, rest)) :
    text.length = rest.length + 10 ∧ rest <:+ text ∧ date.Valid := by
  simp only [readDate, Option.bind_eq_bind, Option.bind_eq_some_iff, Prod.exists,
    Option.ite_none_right_eq_some, Option.some.injEq, Prod.mk.injEq] at h
  obtain ⟨_, _, hyear, _, hpass, _, _, hmonth, _, hpass', _, _, hday, hvalid, rfl, rfl⟩ := h
  obtain ⟨⟨year, rfl, -⟩, hlength⟩ := passes_of_readNumber hyear
  obtain rfl := eq_cons_of_pass hpass
  obtain ⟨⟨month, rfl, -⟩, hlength', -⟩ := passes_of_readPair hmonth
  obtain rfl := eq_cons_of_pass hpass'
  obtain ⟨⟨day, rfl, -⟩, hlength'', -⟩ := passes_of_readPair hday
  refine ⟨?_, ⟨year ++ '-' :: (month ++ '-' :: day), by simp⟩, hvalid⟩
  simp only [List.length_append, List.length_cons] at hlength hlength' hlength'' ⊢
  omega

theorem eq_cons_of_passSeparator (h : passSeparator text = some rest) :
    ∃ c, IsSeparator c ∧ text = c :: rest := by
  cases text with
  | nil => cases h
  | cons c text =>
      simp only [passSeparator, Option.ite_none_right_eq_some, Option.some.injEq] at h
      obtain ⟨hc, rfl⟩ := h
      exact ⟨c, hc, rfl⟩

theorem passes_readDigits (text : List Char) : Passes text (readDigits text).2 := by
  induction text with
  | nil => exact .refl []
  | cons c text ih =>
      cases hd : digit? c with
      | none =>
          simp only [readDigits, hd]
          exact .refl _
      | some d =>
          simp only [readDigits, hd]
          exact ih.cons (not_isSeparator_of_digit? hd)

theorem passes_of_readFraction {digits : List Nat}
    (h : readFraction text = some (digits, rest)) : Passes text rest := by
  unfold readFraction at h
  split at h
  · rename_i text
    have hdigits := passes_readDigits text
    split at h
    · cases h
    · rename_i heq
      rw [heq] at hdigits
      obtain ⟨-, rfl⟩ := Prod.mk.inj (Option.some.inj h)
      exact hdigits.cons (by decide)
  · obtain ⟨-, rfl⟩ := Prod.mk.inj (Option.some.inj h)
    exact .refl _

theorem of_readDistance {n : Nat} (h : readDistance text = some (n, rest)) :
    Passes text rest ∧ n < 1440 := by
  simp only [readDistance, Option.bind_eq_bind, Option.bind_eq_some_iff, Prod.exists,
    Option.some.injEq, Prod.mk.injEq] at h
  obtain ⟨hours, _, hhours, _, hpass, minutes, _, hminutes, rfl, rfl⟩ := h
  obtain ⟨hpasses, -, -, hhours⟩ := passes_of_readPair hhours
  obtain rfl := eq_cons_of_pass hpass
  obtain ⟨hpasses', -, -, hminutes⟩ := passes_of_readPair hminutes
  exact ⟨hpasses.trans (hpasses'.cons (by decide)), by omega⟩

theorem of_readAhead {ahead : Int} (h : readAhead text = some (ahead, rest)) :
    Passes text rest ∧ -1440 < ahead ∧ ahead < 1440 := by
  cases text with
  | nil => cases h
  | cons c text =>
      rw [readAhead] at h
      split at h
      case isTrue hzulu =>
        obtain ⟨rfl, rfl⟩ := Prod.mk.inj (Option.some.inj h)
        refine ⟨.cons ?_ (.refl _), by decide, by decide⟩
        rcases hzulu with rfl | rfl <;> decide
      case isFalse =>
        split at h
        case isTrue hplus =>
          subst hplus
          simp only [Option.bind_eq_bind, Option.bind_eq_some_iff, Prod.exists, Option.some.injEq,
            Prod.mk.injEq] at h
          obtain ⟨n, _, hdistance, rfl, rfl⟩ := h
          obtain ⟨hpasses, hlt⟩ := of_readDistance hdistance
          exact ⟨hpasses.cons (by decide), by omega, by omega⟩
        case isFalse =>
          split at h
          case isTrue hminus =>
            simp only [Option.bind_eq_bind, Option.bind_eq_some_iff, Prod.exists,
              Option.some.injEq, Prod.mk.injEq] at h
            obtain ⟨n, _, hdistance, rfl, rfl⟩ := h
            obtain ⟨hpasses, hlt⟩ := of_readDistance hdistance
            refine ⟨hpasses.cons ?_, by omega, by omega⟩
            rcases hminus with rfl | rfl <;> decide
          case isFalse => cases h

/-! ## The whole -/

variable {s : String} {stamp : Stamp}

theorem isProper_and_spelling (h : ofText? s = some stamp) :
    stamp.IsProper ∧ ∃ date c time, s.toList = date ++ c :: time ∧ date.length = 10 ∧
      IsSeparator c ∧ ∀ d ∈ time, ¬ IsSeparator d := by
  simp only [ofText?, Option.bind_eq_bind, Option.bind_eq_some_iff, Prod.exists,
    Option.ite_none_right_eq_some, Option.some.injEq, List.isEmpty_iff] at h
  obtain ⟨_, _, hdate, _, hseparator, hour, _, hhour, _, hpass, minute, _, hminute, _, hpass', _, _,
    hsecond, _, _, hfraction, _, _, hahead, rfl, rfl⟩ := h
  obtain ⟨hlength, ⟨date, hdate⟩, hvalid⟩ := of_readDate hdate
  obtain ⟨c, hc, rfl⟩ := eq_cons_of_passSeparator hseparator
  obtain ⟨hhours, -, -, hhour⟩ := passes_of_readPair hhour
  obtain rfl := eq_cons_of_pass hpass
  obtain ⟨hminutes, -, -, hminute⟩ := passes_of_readPair hminute
  obtain rfl := eq_cons_of_pass hpass'
  obtain ⟨hseconds, -, -, hsecond⟩ := passes_of_readPair hsecond
  obtain ⟨hzone, hlt, hgt⟩ := of_readAhead hahead
  have hcolon : ¬ IsSeparator ':' := by decide
  have hclock := (hhours.trans (hminutes.cons hcolon)).trans (hseconds.cons hcolon)
  have htime := (hclock.trans (passes_of_readFraction hfraction)).trans hzone
  have hofDay : hour * 60 + minute < 1440 := by omega
  rw [← hdate, List.length_append, Nat.add_comm] at hlength
  exact ⟨⟨hvalid, hofDay, hsecond, hlt, hgt⟩, date, c, _, hdate.symm, Nat.add_left_cancel hlength,
    hc, fun d => htime.not_isSeparator⟩

end ClusterEvents.Calendar.Stamp
