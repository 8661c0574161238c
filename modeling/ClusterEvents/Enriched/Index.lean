import ClusterEvents.Calendar.Stamp

/-!
# Monthly indices

Documents go to one index per month, named by a common beginning and the month in
universal time.
-/

namespace ClusterEvents.EnrichedEvent

/-- The index for an event of a certain time. What has no readable time goes to the
index of the current month. -/
def indexName (beginning eventTime : String) (now : Calendar.Month) : String :=
  match Calendar.Stamp.ofText? eventTime with
  | some stamp => beginning ++ stamp.utcMonth.text
  | none => beginning ++ now.text

end ClusterEvents.EnrichedEvent
