/-!
# Why snapshots cannot be used

A database refuses for one of a few causes. Each has a text of its own, and beneath it
the text of a code that stands for a whole kind of causes.
-/

namespace ClusterEvents

/-- Why a database cannot be used. -/
inductive DatabaseFault where
  /-- The file at its path cannot be opened. -/
  | unopenable (path : String)
  /-- The file beside it that changes are noted in cannot be made. -/
  | noJournal
  /-- The file at its path is no database. -/
  | foreign
  /-- It may be read only, so it cannot be set up. -/
  | readOnly
  /-- It was opened anew and has not been set up. -/
  | noTables
  /-- Its address names another computer. -/
  | elsewhere (computer : String)
  /-- Its address chooses something that does not exist, among things of one kind. -/
  | noSuch (kind choice : String)
  /-- Its address asks for more access than it has allowed before. -/
  | forbidden (mode : String)
  /-- Its path has a null character. -/
  | nullInPath (position : Nat)
deriving DecidableEq, Repr

namespace DatabaseFault

/-- The fault in words. -/
def message : DatabaseFault → String
  | .unopenable path => s!"unable to open database file: {path}"
  | .noJournal => "unable to open database file"
  | .foreign => "file is not a database"
  | .readOnly => "attempt to write a readonly database"
  | .noTables => "no such table: snapshot_groups"
  | .elsewhere computer => s!"invalid uri authority: {computer}"
  | .noSuch kind choice => s!"no such {kind}: {choice}"
  | .forbidden mode => s!"access mode not allowed: {mode}"
  | .nullInPath position => s!"nul byte found in provided data at position: {position}"

/-- The code behind the fault, in words. A path with a null character has no code. -/
def codeText (fault : DatabaseFault) : String :=
  match fault with
  | .unopenable _ | .noJournal => "Error code 14: Unable to open the database file"
  | .foreign => "Error code 26: File opened that is not a database file"
  | .readOnly => "Error code 8: Attempt to write a readonly database"
  | .noTables | .elsewhere _ | .noSuch .. => "Error code 1: SQL error or missing database"
  | .forbidden _ => "Error code 3: Access permission denied"
  | .nullInPath _ => fault.message

end DatabaseFault

/-- Why snapshots cannot be read or written. -/
inductive SnapshotError where
  /-- The directory of the database could not be made. -/
  | directory (reason : String)
  /-- The database refused. -/
  | database (fault : DatabaseFault)
  /-- The work on the store came to no end. -/
  | interrupted (reason : String)
deriving DecidableEq, Repr

namespace SnapshotError

/-- The error in words. -/
def message : SnapshotError → String
  | .directory reason => s!"snapshot directory could not be created: {reason}"
  | .database fault => s!"sqlite error: {fault.message}"
  | .interrupted reason => s!"snapshot store task failed: {reason}"

/-- What caused the error, from the outside in, each in words. -/
def causes : SnapshotError → List String
  | .directory reason => [reason]
  | .database fault => [fault.message, fault.codeText]
  | .interrupted _ => []

end SnapshotError

end ClusterEvents
