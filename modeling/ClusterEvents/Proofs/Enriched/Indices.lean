import ClusterEvents.Enriched.Index
import ClusterEvents.Proofs.Calendar.Instants
import ClusterEvents.Proofs.Calendar.Months
import ClusterEvents.Proofs.Text.ByteOrder

/-!
# Indices and instants

The index for an event with a readable time is named for the month of universal time in which
its instant lies (`indexName_tells_month`). Of the time nothing else counts: however an instant
is spelled, and at whatever distance from universal time, its index is the same. While years have
four digits, the names of the indices are in the order of the instants.
-/

namespace ClusterEvents.EnrichedEvent

open Calendar

variable {eventTime eventTime' : String} {s s' : Stamp}

theorem indexName_of_ofText? (h : Stamp.ofText? eventTime = some s) (beginning : String)
    (now : Month) : indexName beginning eventTime now = beginning ++ s.utcMonth.text := by
  rw [indexName, h]

theorem ofString_append_lt (beginning : String) {t t' : String} (h : t < t') :
    Bytes.ofString (beginning ++ t) < Bytes.ofString (beginning ++ t') := by
  rw [Bytes.ofString_lt_ofString_iff, String.lt_iff, String.toList_append, String.toList_append]
  exact List.append_left_lt (String.lt_iff.1 h)

/-- The names of indices of the years in four digits are in the order of their months. -/
theorem not_ofString_text_lt {m m' : Month} (h : m.Valid) (h' : m'.Valid)
    (hle : m.index ≤ m'.index) (hfrom : (Month.mk 0 1).index ≤ m.index)
    (hto : m'.index < (Month.mk 10000 1).index) (beginning : String) :
    ¬ Bytes.ofString (beginning ++ m'.text) < Bytes.ofString (beginning ++ m.text) := by
  obtain ⟨h1, h12⟩ := h
  obtain ⟨h1', h12'⟩ := h'
  by_cases heq : m = m'
  · rw [heq]
    exact List.lt_irrefl _
  · have hne : m.index ≠ m'.index := fun hindex =>
      heq (Month.index_injective ⟨h1, h12⟩ ⟨h1', h12'⟩ hindex)
    simp only [Month.index] at hle hfrom hto hne
    have hlt : m.text < m'.text := Month.text_lt_text (by omega) (by omega) (by omega) (by omega)
    exact List.lt_asymm (ofString_append_lt beginning hlt)

/-- The event times of an index have instants in its month. Times that tell one instant share an
index, and of two instants in the years from zero to 9999 the later never has the smaller name,
byte by byte. -/
theorem indexName_tells_month (h : Stamp.ofText? eventTime = some s)
    (h' : Stamp.ofText? eventTime' = some s') (beginning : String) (now now' : Month) :
    (∃ (month : Month) (year : List Char),
      (month.Holds s.instant ∧ ∀ other : Month, other.Holds s.instant → other = month) ∧
      Month.SpellsYear month.year year ∧
      indexName beginning eventTime now =
        beginning ++ String.ofList
          (year ++ ['-', (month.month / 10).digitChar, (month.month % 10).digitChar])) ∧
    (s.instant = s'.instant →
      indexName beginning eventTime now = indexName beginning eventTime' now') ∧
    (s.instant.Before s'.instant → (Month.mk 0 1).start ≤ s.instant.minute →
      s'.instant.minute < (Month.mk 10000 1).start →
      ¬ Bytes.ofString (indexName beginning eventTime' now') <
        Bytes.ofString (indexName beginning eventTime now)) := by
  have hmonth := Stamp.holds_utcMonth (Stamp.isProper_and_spelling h).1
  have hmonth' := Stamp.holds_utcMonth (Stamp.isProper_and_spelling h').1
  rw [indexName_of_ofText? h, indexName_of_ofText? h']
  refine ⟨⟨s.utcMonth, Month.yearText s.utcMonth.year, ⟨hmonth, fun other hother =>
    hother.unique hmonth⟩, Month.spellsYear_yearText _, ?_⟩, fun heq => ?_,
    fun hbefore hfrom hto => ?_⟩
  · have h12 := hmonth.valid.2
    rw [Month.text, Month.padded_two (by omega)]
  · rw [← heq] at hmonth'
    rw [hmonth.unique hmonth']
  · refine not_ofString_text_lt hmonth.valid hmonth'.valid
      (hmonth.index_le hmonth' hbefore.minute_le) ?_ ?_ beginning
    · exact (hmonth.start_le_iff (by decide)).1 hfrom
    · rw [← not_le, hmonth'.start_le_iff (by decide), not_le] at hto
      exact hto

/-- A leap second at the end of a year in universal time, and a time of the same evening that is
half an hour later. -/
theorem indexName_of_leap_second :
    Stamp.ofText? "2016-12-31T23:59:60Z" = some ⟨⟨⟨2016, 12⟩, 31⟩, 1439, 60, [], 0⟩ ∧
    Stamp.ofText? "2016-12-31 23:30:00.50-01:00" =
      some ⟨⟨⟨2016, 12⟩, 31⟩, 1410, 0, [5, 0], -60⟩ ∧
    ¬ Bytes.ofString (indexName "events-" "2016-12-31 23:30:00.50-01:00" ⟨1970, 1⟩) <
      Bytes.ofString (indexName "events-" "2016-12-31T23:59:60Z" ⟨1970, 1⟩) := by
  have h : Stamp.ofText? "2016-12-31T23:59:60Z" = some ⟨⟨⟨2016, 12⟩, 31⟩, 1439, 60, [], 0⟩ := by
    decide +kernel
  have h' : Stamp.ofText? "2016-12-31 23:30:00.50-01:00" =
      some ⟨⟨⟨2016, 12⟩, 31⟩, 1410, 0, [5, 0], -60⟩ := by
    decide +kernel
  obtain ⟨-, -, hlater⟩ := indexName_tells_month h h' "events-" ⟨1970, 1⟩ ⟨1970, 1⟩
  exact ⟨h, h', hlater (by decide) (by decide) (by decide)⟩

end ClusterEvents.EnrichedEvent
