import ClusterEvents.Enriched.Assembly
import ClusterEvents.Proofs.Calendar.Spelling
import ClusterEvents.Proofs.Digest.NameIds
import ClusterEvents.Proofs.Text.ByteOrder

/-!
# Identifiers of documents

An identifier is derived from a message and a time, one behind the other with nothing between
them. Where the time is readable the two are known from the whole (`idName_inj`): the last
character that may separate a date from a time of day is the one of the event time, and ten
characters in front of it the event time begins. So two documents with readable times share an
identifier only if they have the same message and the same time, or if the digests of different
bytes collide.
-/

namespace ClusterEvents.EnrichedEvent

open Calendar

variable {message eventTime message' eventTime' : String}

theorem append_inj_of_isSome (h : (Stamp.ofText? eventTime).isSome)
    (h' : (Stamp.ofText? eventTime').isSome) (heq : message ++ eventTime = message' ++ eventTime') :
    message = message' ∧ eventTime = eventTime' := by
  obtain ⟨s, hs⟩ := Option.isSome_iff_exists.1 h
  obtain ⟨s', hs'⟩ := Option.isSome_iff_exists.1 h'
  obtain ⟨-, date, c, time, htime, hdate, hc, hnone⟩ := Stamp.isProper_and_spelling hs
  obtain ⟨-, date', c', time', htime', hdate', hc', hnone'⟩ := Stamp.isProper_and_spelling hs'
  have hlists := congrArg String.toList heq
  rw [String.toList_append, String.toList_append, htime, htime', ← List.append_assoc,
    ← List.append_assoc] at hlists
  obtain ⟨hfront, rfl, rfl⟩ := Text.append_cons_inj hc hc' hnone hnone' hlists
  obtain ⟨hmessage, rfl⟩ := List.append_inj' hfront (hdate.trans hdate'.symm)
  exact ⟨String.toList_inj.1 hmessage, String.toList_inj.1 (htime.trans htime'.symm)⟩

theorem idName_inj (h : (Stamp.ofText? eventTime).isSome) (h' : (Stamp.ofText? eventTime').isSome) :
    idName message eventTime = idName message' eventTime' ↔
      message = message' ∧ eventTime = eventTime' := by
  refine ⟨fun heq => ?_, fun ⟨hmessage, htime⟩ => by rw [hmessage, htime]⟩
  have hread := congrArg Bytes.toString? heq
  rw [idName, idName, Bytes.toString?_ofString, Bytes.toString?_ofString] at hread
  exact append_inj_of_isSome h h' (Option.some.inj hread)

/-- The bytes that an identifier is derived from are those of one message and one readable time
only, so documents with different ones have different identifiers unless digests collide. -/
theorem documentId_separates (h : (Stamp.ofText? eventTime).isSome)
    (h' : (Stamp.ofText? eventTime').isSome) :
    (idNamespace ++ idName message eventTime = idNamespace ++ idName message' eventTime' →
      message = message' ∧ eventTime = eventTime') ∧
    (documentId message eventTime = documentId message' eventTime' ↔
      (message = message' ∧ eventTime = eventTime') ∨
        Digest.NameId.Collide (idNamespace ++ idName message eventTime)
          (idNamespace ++ idName message' eventTime')) := by
  have hbytes : idNamespace ++ idName message eventTime =
      idNamespace ++ idName message' eventTime' ↔ message = message' ∧ eventTime = eventTime' := by
    rw [List.append_cancel_left_eq, idName_inj h h']
  refine ⟨hbytes.1, ?_⟩
  rw [documentId, documentId, Digest.NameId.ofName_eq_ofName_iff, hbytes]

/-- A message that ends in a readable time itself. -/
theorem documentId_separates_timed_message :
    (Stamp.ofText? "2023-01-27 03:40:08.2023-01:00").isSome ∧
    (Stamp.ofText? "2023-01-27T03:40:09Z").isSome ∧
    idNamespace ++ idName "Host at " "2023-01-27 03:40:08.2023-01:00" ≠
      idNamespace ++ idName "Host at 2023-01-27 03:40:08.2023-01:00" "2023-01-27T03:40:09Z" := by
  have h : (Stamp.ofText? "2023-01-27 03:40:08.2023-01:00").isSome := by decide +kernel
  have h' : (Stamp.ofText? "2023-01-27T03:40:09Z").isSome := by decide +kernel
  refine ⟨h, h', fun heq => ?_⟩
  exact absurd ((documentId_separates h h').1 heq).2 (by decide)

end ClusterEvents.EnrichedEvent
