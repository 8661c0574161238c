import ClusterEvents.Files.Tree
import ClusterEvents.Json.Printer
import ClusterEvents.Json.Reader

/-!
# Databases as bytes

A database is kept in a file as one JSON object with a list for each of its tables.
Bytes of any other form are an ordinary file.
-/

namespace ClusterEvents

namespace DurableStore

/-- A group with the time of its expiry, as JSON. -/
def groupToJson (entry : String × Int) : Json :=
  .arr [.str entry.1, .int entry.2]

/-- A row of the table of texts, as JSON. -/
def rowToJson (r : SnapshotRow) : Json :=
  .arr [.str r.group, .str r.id, .str r.text]

/-- A database as JSON. -/
def toJson (s : DurableStore) : Json :=
  .obj (Object.ofList [
    ("snapshot_groups", .arr (s.expiries.map groupToJson)),
    ("snapshots", .arr (s.rows.map rowToJson))])

/-- The group that a JSON value stands for. -/
def groupOfJson? : Json → Option (String × Int)
  | .arr [.str group, .int time] => some (group, time)
  | _ => none

/-- The row that a JSON value stands for. -/
def rowOfJson? : Json → Option SnapshotRow
  | .arr [.str group, .str id, .str text] => some ⟨group, id, text⟩
  | _ => none

/-- The database that a JSON value stands for. -/
def ofJson? (v : Json) : Option DurableStore := do
  let expiries ← (← (← v.member? "snapshot_groups").items?).mapM groupOfJson?
  let rows ← (← (← v.member? "snapshots").items?).mapM rowOfJson?
  some { expiries, rows }

theorem mapM_groupOfJson? (entries : List (String × Int)) :
    entries.mapM (groupOfJson? ∘ groupToJson) = some entries := by
  induction entries with
  | nil => rfl
  | cons entry rest ih => simp [List.mapM_cons, groupToJson, groupOfJson?, ih]

theorem mapM_rowOfJson? (rows : List SnapshotRow) :
    rows.mapM (rowOfJson? ∘ rowToJson) = some rows := by
  induction rows with
  | nil => rfl
  | cons row rest ih => simp [List.mapM_cons, rowToJson, rowOfJson?, ih]

/-- A database is what its JSON stands for. -/
theorem ofJson?_toJson (s : DurableStore) : ofJson? s.toJson = some s := by
  simp [ofJson?, toJson, Json.member?, Object.ofList, Json.items?, Members.get?_insert,
    mapM_groupOfJson?, mapM_rowOfJson?]

end DurableStore

namespace Files.Entry

/-- The bytes that an entry is kept as, if it is a file. -/
def bytes? : Entry → Option Bytes
  | .directory => none
  | .file content => some content
  | .database tables => some (Bytes.ofString tables.toJson.print)

/-- The file or database that is kept as these bytes. -/
def ofBytes (content : Bytes) : Entry :=
  match Json.ofBytes content with
  | .error _ => .file content
  | .ok v =>
    match DurableStore.ofJson? v with
    | some tables => .database tables
    | none => .file content

end Files.Entry

end ClusterEvents
