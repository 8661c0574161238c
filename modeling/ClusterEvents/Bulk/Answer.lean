import ClusterEvents.Bulk.Status
import ClusterEvents.Json.Record
import ClusterEvents.Json.Printer
import ClusterEvents.Json.Equality

/-!
# What the search store answers

The store answers a request with a status and a body, or the request fails on its way.
The body of a good answer has one result per item, in the order in which the items
were sent. `Answer.verdicts` turns an answer into what each item of a batch is told:
results are matched to items by their place, missing ones count as errors and
supernumerary ones are passed over.
-/

namespace ClusterEvents

/-- Why a document is not stored. -/
inductive BulkError where
  /-- Nothing is taken any more. -/
  | closed
  /-- The request failed as a whole. -/
  | request (reason : String)
  /-- The store did not take the document. -/
  | rejected (status : Nat) (reason : String)
  /-- The answer makes no sense. -/
  | response (reason : String)
deriving DecidableEq, Repr

namespace BulkError

/-- The error in words. -/
def message : BulkError → String
  | .closed => "bulk indexer is closed"
  | .request reason => s!"bulk request failed: {reason}"
  | .rejected status reason => s!"document rejected with status {status}: {reason}"
  | .response reason => s!"unexpected bulk response: {reason}"

end BulkError

namespace Bulk

/-- What becomes of a request. -/
inductive Answer where
  /-- It did not reach the store, or no answer came back. -/
  | lost (reason : String)
  | response (status : Nat) (body : Bytes)
deriving DecidableEq, Repr

/-- The result for one item. -/
structure ItemResult where
  status : Nat
  error : Option Json
deriving DecidableEq

namespace ItemResult

/-- How the fields of a result are read. -/
def fields : List Json.Field := [
  ⟨"status", Json.Kind.natural 65536, none⟩,
  ⟨"error", Json.Kind.optional Json.Kind.any, some .null⟩]

/-- The result in a complete record. -/
def ofRecord (record : Json) : ItemResult where
  status := match record.member? "status" with
    | some (.int n) => n.toNat
    | _ => 0
  error := (record.member? "error").filter fun e => e ≠ .null

/-- What the item is told. -/
def verdict (r : ItemResult) : Except BulkError Unit :=
  if Status.isSuccess r.status then .ok ()
  else .error (.rejected r.status ((r.error.map Json.print).getD ""))

end ItemResult

namespace Answer

/-- How the fields of a good answer are read: each item has an object with its result
under the name of the action. -/
def fields : List Json.Field := [
  ⟨"items", Json.Kind.list (Json.Kind.table (Json.Kind.record ItemResult.fields)),
    some (.arr [])⟩]

/-- The results in the body of a good answer, one per item; an item may have none. -/
def results? (body : Bytes) : Except Json.ReadError (List (Option ItemResult)) := do
  let record ← Json.ofBytesAs (Json.Kind.record fields) body
  let items := ((record.member? "items").bind Json.items?).getD []
  .ok (items.map fun item =>
    (item.object?.bind fun o => o.values.head?).map ItemResult.ofRecord)

/-- The body of an answer as text; what is no text shows as replacement characters. -/
def bodyText (body : Bytes) : String :=
  String.ofList ((Glyphs.ofBytes body).map fun g => g.getD '\uFFFD')

/-- The results that an answer gives, or why it gives none. -/
def results (answer : Answer) : Except BulkError (List (Option ItemResult)) :=
  match answer with
  | .lost reason => .error (.request reason)
  | .response status body =>
    if Status.isSuccess status then
      match results? body with
      | .ok results => .ok results
      | .error _ => .error (.response "error decoding response body")
    else .error (.request s!"status {Status.describe status}: {bodyText body}")

/-- What the items of a batch are told when each gets the result at its place. -/
def matched : Nat → List (Option ItemResult) → List (Except BulkError Unit)
  | 0, _ => []
  | count + 1, some result :: results => result.verdict :: matched count results
  | count + 1, results =>
    .error (.response "no result for document") :: matched count results.tail

/-- What the items of a batch of a size are told. -/
def verdicts (answer : Answer) (size : Nat) : List (Except BulkError Unit) :=
  match answer.results with
  | .ok results => matched size results
  | .error e => List.replicate size (.error e)

theorem length_matched (size : Nat) (results : List (Option ItemResult)) :
    (matched size results).length = size := by
  induction size generalizing results with
  | zero => rfl
  | succ size ih =>
    match results with
    | [] | none :: _ | some _ :: _ => simp [matched, ih]

/-- Every item of a batch is told something. -/
theorem length_verdicts (answer : Answer) (size : Nat) :
    (answer.verdicts size).length = size := by
  unfold verdicts
  split
  · exact length_matched _ _
  · simp

end Answer

end Bulk

end ClusterEvents
