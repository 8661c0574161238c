import ClusterEvents.Logging.Record
import ClusterEvents.Logging.Setup
import ClusterEvents.Json.Printer

/-!
# Records as lines

A record is shown on a line of its own, as a JSON object or as plain text.
-/

namespace ClusterEvents.Logging

/-- A record as JSON. -/
def Record.toJson (record : Record) : Json :=
  .obj (Object.ofList [
    ("level", .str record.level.name),
    ("message", .str record.text),
    ("target", .str record.target)])

/-- The line of a record. -/
def Record.line (record : Record) : Format → String
  | .json => record.toJson.print
  | .text => s!"{record.level.name} {record.text}"

end ClusterEvents.Logging
