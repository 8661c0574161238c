import Mathlib.Algebra.Order.Group.Basic
import ClusterEvents.Calendar.Date

/-!
# Numbered days

Days are numbered by the rule for leap years, with the first day of 1970 as day zero:
`Date.number` is the number of the first day of its month and the days of the month before it.
The day after has the next number, and the day before the one before (`Date.number_next`,
`Date.number_previous`).

A month ends where the next begins (`Month.first_next`). So the months, in their order, cut the
numbers into pieces, and the month of a day tells the piece that its number lies in
(`Date.mem_toMonth`).
-/

namespace ClusterEvents.Calendar

/-- The days from the beginning of year one to that of a year. -/
def daysBefore (year : Int) : Int :=
  365 * (year - 1) + (year - 1) / 4 - (year - 1) / 100 + (year - 1) / 400

namespace Month

/-- Whether the year has this month. -/
def Valid (m : Month) : Prop :=
  1 ≤ m.month ∧ m.month ≤ 12

instance (m : Month) : Decidable m.Valid :=
  inferInstanceAs (Decidable (_ ∧ _))

/-- The days of the first months of a year. -/
def daysOfFirst (year : Int) : (count : Nat) → Nat
  | 0 => 0
  | count + 1 => daysOfFirst year count + (Month.mk year (count + 1)).days

/-- The number of the first day. -/
def first (m : Month) : Int :=
  daysBefore m.year - daysBefore 1970 + daysOfFirst m.year (m.month - 1)

/-- The months one behind the other, with the first of year zero as month zero. -/
def ofIndex (k : Int) : Month :=
  ⟨k / 12, (k % 12).toNat + 1⟩

/-- The place of a month among all months. -/
def index (m : Month) : Int :=
  12 * m.year + (m.month - 1)

variable {m m' : Month}

theorem isLeap_iff (year : Int) :
    isLeap year = true ↔ year % 4 = 0 ∧ (year % 100 ≠ 0 ∨ year % 400 = 0) := by
  simp [isLeap]

theorem Valid.next (h : m.Valid) : m.next.Valid := by
  unfold Month.next
  split
  · exact ⟨le_rfl, Nat.le_of_ble_eq_true rfl⟩
  · obtain ⟨h1, h12⟩ := h
    exact ⟨Nat.le_add_left 1 m.month, by simp only; omega⟩

/-- A year has 365 days, and one more when it is a leap year. -/
theorem daysOfFirst_twelve (year : Int) :
    daysOfFirst year 12 = if isLeap year then 366 else 365 := by
  cases hleap : isLeap year <;> simp [daysOfFirst, days, hleap]

theorem daysBefore_succ (year : Int) :
    daysBefore (year + 1) = daysBefore year + daysOfFirst year 12 := by
  have hleap := isLeap_iff year
  rw [daysOfFirst_twelve, daysBefore, daysBefore]
  cases hyear : isLeap year with
  | false =>
      have hnot : ¬ (year % 4 = 0 ∧ (year % 100 ≠ 0 ∨ year % 400 = 0)) := by
        rw [← hleap, hyear]
        decide
      simp only [Bool.false_eq_true, if_false]
      omega
  | true =>
      have hyes := hleap.1 hyear
      simp only [if_true]
      omega

/-- A month ends where the next begins. -/
theorem first_next (h : m.Valid) : m.next.first = m.first + m.days := by
  obtain ⟨year, month⟩ := m
  obtain ⟨count, rfl⟩ : ∃ count, month = count + 1 := Nat.exists_eq_add_of_le' h.1
  have hmonth : daysOfFirst year (count + 1) =
      daysOfFirst year count + (Month.mk year (count + 1)).days := rfl
  unfold next
  split
  case isTrue hlast =>
    obtain rfl : count = 11 := Nat.succ.inj hlast
    have hyear := daysBefore_succ year
    have hnone : daysOfFirst (year + 1) (1 - 1) = 0 := rfl
    rw [hmonth] at hyear
    simp only [first, hnone, Nat.add_sub_cancel]
    omega
  case isFalse =>
    simp only [first, Nat.add_sub_cancel]
    omega

example : (Month.mk 1970 1).first = 0 ∧ (Month.mk 2000 3).first = 11017 := by
  decide

theorem ofIndex_index (h : m.Valid) : ofIndex m.index = m := by
  obtain ⟨year, month⟩ := m
  obtain ⟨h1, h12⟩ := h
  simp only at h1 h12
  have hyear : (12 * year + ((month : Int) - 1)) / 12 = year := by omega
  have hmonth : ((12 * year + ((month : Int) - 1)) % 12).toNat + 1 = month := by omega
  simp only [ofIndex, index, hyear, hmonth]

theorem valid_ofIndex (k : Int) : (ofIndex k).Valid := by
  refine ⟨?_, ?_⟩ <;> simp only [ofIndex] <;> omega

theorem next_ofIndex (k : Int) : (ofIndex k).next = ofIndex (k + 1) := by
  unfold next
  split
  · rename_i h
    simp only [ofIndex] at h ⊢
    have hyear : (k + 1) / 12 = k / 12 + 1 := by omega
    have hmonth : (k + 1) % 12 = 0 := by omega
    rw [hyear, hmonth]
    rfl
  · rename_i h
    simp only [ofIndex] at h ⊢
    have hyear : (k + 1) / 12 = k / 12 := by omega
    have hmonth : ((k + 1) % 12).toNat = (k % 12).toNat + 1 := by omega
    rw [hyear, hmonth]

/-- Months in their order begin with ascending days. -/
theorem first_ofIndex_lt_iff {k l : Int} : (ofIndex k).first < (ofIndex l).first ↔ k < l := by
  have hmono : StrictMono fun k => (ofIndex k).first := by
    refine strictMono_int_of_lt_succ fun k => ?_
    have hdays := (ofIndex k).days_pos
    have hnext := first_next (valid_ofIndex k)
    rw [next_ofIndex] at hnext
    omega
  exact hmono.lt_iff_lt

theorem first_le_first_iff (h : m.Valid) (h' : m'.Valid) :
    m.first ≤ m'.first ↔ m.index ≤ m'.index := by
  have hiff := first_ofIndex_lt_iff (k := m'.index) (l := m.index)
  rw [ofIndex_index h, ofIndex_index h'] at hiff
  omega

theorem first_lt_first_next_iff (h : m.Valid) (h' : m'.Valid) :
    m.first < m'.next.first ↔ m.index ≤ m'.index := by
  have hnext : m'.next = ofIndex (m'.index + 1) := by
    rw [← next_ofIndex, ofIndex_index h']
  have hiff := first_ofIndex_lt_iff (k := m.index) (l := m'.index + 1)
  rwa [ofIndex_index h, ← hnext, Int.lt_add_one_iff] at hiff

end Month

namespace Date

/-- The days from the first day of 1970 to this one. -/
def number (d : Date) : Int :=
  d.toMonth.first + d.day - 1

variable {d : Date}

theorem Valid.toMonth (h : d.Valid) : d.toMonth.Valid :=
  ⟨h.1, h.2.1⟩

/-- The number of a day lies in its month. -/
theorem mem_toMonth (h : d.Valid) :
    d.toMonth.first ≤ d.number ∧ d.number < d.toMonth.next.first := by
  obtain ⟨-, -, hday, hdays⟩ := id h
  rw [Month.first_next h.toMonth, number]
  omega

theorem Valid.next (h : d.Valid) : d.next.Valid := by
  obtain ⟨h1, h12, hday, hdays⟩ := id h
  unfold Date.next
  split
  · exact ⟨h1, h12, by simp, by simp only; omega⟩
  · exact ⟨h.toMonth.next.1, h.toMonth.next.2, by simp, Month.days_pos _⟩

theorem number_next (h : d.Valid) : d.next.number = d.number + 1 := by
  obtain ⟨-, -, hday, hdays⟩ := id h
  unfold next
  split
  · simp only [number]
    omega
  · have hlast := Month.first_next h.toMonth
    simp only [number]
    omega

theorem Valid.previous (h : d.Valid) : d.previous.Valid := by
  obtain ⟨h1, h12, hday, hdays⟩ := id h
  unfold Date.previous
  split
  · exact ⟨h1, h12, by simp only; omega, by simp only; omega⟩
  · have hpos := d.toMonth.previous.days_pos
    refine ⟨?_, ?_, hpos, le_rfl⟩
    all_goals
      unfold Month.previous
      split
      · simp
      · simp only
        omega

theorem number_previous (h : d.Valid) : d.previous.number = d.number - 1 := by
  have hnext := number_next h.previous
  rw [next_previous h] at hnext
  omega

end Date

end ClusterEvents.Calendar
