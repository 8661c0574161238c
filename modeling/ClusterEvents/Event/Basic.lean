import ClusterEvents.Event.Kind
import ClusterEvents.Json.Record
import ClusterEvents.Json.Equality
import ClusterEvents.Json.Printer
import ClusterEvents.Text.Quoted

/-!
# Events

An event has a name, a free-form payload and metadata. It travels as a JSON record
with these three fields; a missing payload is null, missing or null metadata are
empty.
-/

namespace ClusterEvents

/-- An event as it travels on the stream. -/
structure Event where
  name : String
  payload : Json
  metadata : Object
deriving DecidableEq

namespace Event

/-- How the fields of an event are read. -/
def fields : List Json.Field := [
  ⟨"name", Json.Kind.text, none⟩,
  ⟨"payload", Json.Kind.any, some .null⟩,
  ⟨"metadata", Json.Kind.optional (Json.Kind.table Json.Kind.any), some (.obj Object.empty)⟩]

/-- The event in a complete record. -/
def ofRecord (record : Json) : Event where
  name := ((record.member? "name").bind Json.text?).getD ""
  payload := (record.member? "payload").getD .null
  metadata := ((record.member? "metadata").bind Json.object?).getD Object.empty

/-- The event that bytes hold as JSON text. -/
def ofBytes (bytes : Bytes) : Except Json.ReadError Event := do
  .ok (ofRecord (← Json.ofBytesAs (Json.Kind.record fields) bytes))

/-- The record that an event is written as. -/
def document (e : Event) : Document :=
  .record [
    ("name", .value (.str e.name)),
    ("payload", .value e.payload),
    ("metadata", .value (.obj e.metadata))]

/-- An event as JSON text. -/
def encode (e : Event) : String :=
  e.document.print

/-- What an event is about, if its name is known. -/
def kind? (e : Event) : Option Kind :=
  Kind.ofName? e.name

/-- The text under a key of the payload. -/
def payloadText? (e : Event) (key : String) : Option String :=
  (e.payload.member? key).bind Json.text?

/-- An event that cannot be processed, however often it is delivered: its payload
lacks a text under a key. -/
structure Malformed where
  key : String
deriving DecidableEq, Repr

/-- The fault in words. -/
def Malformed.message (m : Malformed) : String :=
  s!"malformed event: payload has no string field {Text.quote m.key}"

/-- The text under a key that the payload must have. -/
def requireText (e : Event) (key : String) : Except Malformed String :=
  match e.payloadText? key with
  | some s => .ok s
  | none => .error ⟨key⟩

/-- Component versions from the metadata. Where they are wrapped once more under the
same key, the wrapper is taken off. -/
def versions? (e : Event) : Option Object := do
  let versions ← (e.metadata.get? "versions").bind Json.object?
  if versions.toList.length = 1 then
    match versions.get? "versions" with
    | some (.obj inner) => some inner
    | _ => some versions
  else some versions

/-- The release tag from the metadata. -/
def releaseTag? (e : Event) : Option String :=
  (e.metadata.get? "release_tag").bind Json.text?

end Event

end ClusterEvents
