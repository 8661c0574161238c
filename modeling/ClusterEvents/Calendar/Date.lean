/-!
# Days and months

The calendar counts years through zero, with the leap years of the Gregorian rule
throughout. `Date.next` and `Date.previous` step from day to day; on valid dates each
undoes the other (`Date.previous_next`, `Date.next_previous`).
-/

namespace ClusterEvents.Calendar

/-- A month of a year. -/
structure Month where
  year : Int
  month : Nat
deriving DecidableEq, Repr

/-- A day of a month. -/
structure Date extends Month where
  day : Nat
deriving DecidableEq, Repr

/-- Every fourth year is a leap year, but of full centuries only every fourth. -/
def isLeap (year : Int) : Bool :=
  year % 4 == 0 && (year % 100 != 0 || year % 400 == 0)

/-- The number of days in a month. -/
def Month.days (m : Month) : Nat :=
  if m.month = 2 then if isLeap m.year then 29 else 28
  else if m.month = 4 ∨ m.month = 6 ∨ m.month = 9 ∨ m.month = 11 then 30
  else 31

theorem Month.days_pos (m : Month) : 0 < m.days := by
  unfold days
  repeat' split
  all_goals omega

/-- The month after. -/
def Month.next (m : Month) : Month :=
  if m.month = 12 then ⟨m.year + 1, 1⟩ else ⟨m.year, m.month + 1⟩

/-- The month before. -/
def Month.previous (m : Month) : Month :=
  if m.month = 1 then ⟨m.year - 1, 12⟩ else ⟨m.year, m.month - 1⟩

namespace Date

/-- Whether the calendar has this day. -/
def Valid (d : Date) : Prop :=
  1 ≤ d.month ∧ d.month ≤ 12 ∧ 1 ≤ d.day ∧ d.day ≤ d.toMonth.days

instance (d : Date) : Decidable d.Valid :=
  inferInstanceAs (Decidable (_ ∧ _ ∧ _ ∧ _))

/-- The day after. -/
def next (d : Date) : Date :=
  if d.day < d.toMonth.days then { d with day := d.day + 1 } else ⟨d.toMonth.next, 1⟩

/-- The day before. -/
def previous (d : Date) : Date :=
  if 1 < d.day then { d with day := d.day - 1 }
  else ⟨d.toMonth.previous, d.toMonth.previous.days⟩

theorem previous_next {d : Date} (h : d.Valid) : d.next.previous = d := by
  obtain ⟨⟨year, month⟩, day⟩ := d
  obtain ⟨h1, h12, hd, hle⟩ := h
  simp only at h1 h12 hd hle
  unfold next
  by_cases hlt : day < (Month.mk year month).days
  · simp [hlt, previous, show 0 < day by omega]
  · have hday : day = (Month.mk year month).days := by omega
    by_cases h' : month = 12
    · subst h'; subst hday
      simp [previous, Month.next, Month.previous]
    · have : month ≠ 0 := by omega
      simp [previous, Month.next, Month.previous, h', hday, this]

theorem next_previous {d : Date} (h : d.Valid) : d.previous.next = d := by
  obtain ⟨⟨year, month⟩, day⟩ := d
  obtain ⟨h1, h12, hd, hle⟩ := h
  simp only at h1 h12 hd hle
  unfold previous
  by_cases hlt : 1 < day
  · have : day - 1 < (Month.mk year month).days := by omega
    simp [hlt, next, this, show day - 1 + 1 = day by omega]
  · have hday : day = 1 := by omega
    subst hday
    by_cases h' : month = 1
    · subst h'
      simp [next, Month.next, Month.previous]
    · have : month - 1 ≠ 12 := by omega
      simp [next, Month.next, Month.previous, h', this, show month - 1 + 1 = month by omega]

end Date

namespace Month

/-- The month so many days after the first day of a month. -/
def after (m : Month) (days : Nat) : Month :=
  if days < m.days then m else after m.next (days - m.days)
termination_by days
decreasing_by
  have := m.days_pos
  omega

/-- Decimal digits, with zeros in front up to a width. -/
def padded (width n : Nat) : List Char :=
  let digits := Nat.toDigits 10 n
  List.replicate (width - digits.length) '0' ++ digits

/-- A year in four digits. A year outside of `0` to `9999` carries its sign and has
as many digits as it needs. -/
def yearText (year : Int) : List Char :=
  if 0 ≤ year ∧ year ≤ 9999 then padded 4 year.toNat
  else (if year < 0 then '-' else '+') :: padded 4 year.natAbs

/-- Year and month with a hyphen between them. -/
def text (m : Month) : String :=
  String.ofList (yearText m.year ++ '-' :: padded 2 m.month)

end Month

end ClusterEvents.Calendar
