import ClusterEvents.Proofs.Calendar.Days
import ClusterEvents.Proofs.Calendar.Spelling

/-!
# Instants

A time stamp tells an instant: a minute of universal time, counted from the beginning of 1970, a
second of that minute, and nanoseconds, of which a fraction gives the first nine digits. A leap
second is the sixtieth of its minute, so it is later than all others of the minute and before the
next.

Each instant lies in one month (`Month.Holds.unique`). For a time stamp it is the one that its
date comes to in universal time (`Stamp.holds_utcMonth`).
-/

namespace ClusterEvents.Calendar

/-- A point in universal time. -/
structure Instant where
  /-- Minutes since the beginning of 1970. -/
  minute : Int
  second : Nat
  nanosecond : Nat
deriving DecidableEq, Repr

/-- Instants are compared by minutes, then by seconds, then by nanoseconds. -/
def Instant.Before (i j : Instant) : Prop :=
  i.minute < j.minute ∨ i.minute = j.minute ∧
    (i.second < j.second ∨ i.second = j.second ∧ i.nanosecond < j.nanosecond)

instance (i j : Instant) : Decidable (i.Before j) :=
  inferInstanceAs (Decidable (_ ∨ _ ∧ (_ ∨ _ ∧ _)))

theorem Instant.Before.minute_le {i j : Instant} (h : i.Before j) : i.minute ≤ j.minute := by
  rcases h with h | ⟨h, -⟩
  · exact h.le
  · exact h.le

namespace Month

/-- The minute at which a month begins. -/
def start (m : Month) : Int :=
  1440 * m.first

/-- The month that an instant lies in. -/
structure Holds (m : Month) (i : Instant) : Prop where
  valid : m.Valid
  start_le : m.start ≤ i.minute
  lt_next : i.minute < m.next.start

variable {m m' : Month} {i j : Instant}

theorem Holds.start_le_iff (h : m.Holds i) (h' : m'.Valid) :
    m'.start ≤ i.minute ↔ m'.index ≤ m.index := by
  have hstart := h.start_le
  have hnext := h.lt_next
  simp only [start] at hstart hnext ⊢
  refine ⟨fun hle => ?_, fun hle => ?_⟩
  · rw [← first_lt_first_next_iff h' h.valid]
    omega
  · rw [← first_le_first_iff h' h.valid] at hle
    omega

/-- Later instants lie in later months, or in the same. -/
theorem Holds.index_le (h : m.Holds i) (h' : m'.Holds j) (hle : i.minute ≤ j.minute) :
    m.index ≤ m'.index :=
  (h'.start_le_iff h.valid).1 (h.start_le.trans hle)

theorem index_injective (h : m.Valid) (h' : m'.Valid) (heq : m.index = m'.index) : m = m' := by
  rw [← ofIndex_index h, heq, ofIndex_index h']

/-- An instant lies in no more than one month. -/
theorem Holds.unique (h : m.Holds i) (h' : m'.Holds i) : m = m' :=
  index_injective h.valid h'.valid (le_antisymm (h.index_le h' le_rfl) (h'.index_le h le_rfl))

end Month

namespace Stamp

/-- The nanoseconds of a fraction. Missing digits are zeros, and more than nine do not count. -/
def nanosecond (s : Stamp) : Nat :=
  (List.range 9).foldl (fun n k => n * 10 + s.fraction.getD k 0) 0

/-- The instant that a time stamp tells. -/
def instant (s : Stamp) : Instant where
  minute := 1440 * s.date.number + s.minute - s.ahead
  second := s.second
  nanosecond := s.nanosecond

variable {s : Stamp}

/-- The day in universal time is the one whose minutes the instant is among. -/
theorem utcDate_spec (h : s.IsProper) :
    s.utcDate.Valid ∧ 1440 * s.utcDate.number ≤ s.instant.minute ∧
      s.instant.minute < 1440 * (s.utcDate.number + 1) := by
  obtain ⟨hvalid, hminute, -, hlt, hgt⟩ := h
  simp only [instant]
  unfold utcDate utcMinute dayMinutes
  split
  case isTrue hbefore =>
    rw [Date.number_previous hvalid]
    exact ⟨hvalid.previous, by omega, by omega⟩
  case isFalse hbefore =>
    split
    case isTrue hwithin => exact ⟨hvalid, by omega, by omega⟩
    case isFalse hwithin =>
      rw [Date.number_next hvalid]
      exact ⟨hvalid.next, by omega, by omega⟩

theorem holds_utcMonth (h : s.IsProper) : s.utcMonth.Holds s.instant := by
  obtain ⟨hvalid, hle, hlt⟩ := utcDate_spec h
  obtain ⟨hfirst, hnext⟩ := Date.mem_toMonth hvalid
  refine ⟨hvalid.toMonth, ?_, ?_⟩
  · simp only [utcMonth, Month.start]
    omega
  · simp only [utcMonth, Month.start]
    omega

end Stamp

end ClusterEvents.Calendar
