import ClusterEvents.Consumer.System
import ClusterEvents.Files.Tree
import ClusterEvents.Settings.Loading

/-!
# How the program fails

A failure is told from the outside in: what was being done, and then what caused it to
fail, each cause by the next one.
-/

namespace ClusterEvents

namespace RunError

/-- The error in words, given those for an error of processing. -/
def message {ε : Type} (text : ε → String) : RunError ε → String
  | .source reason => s!"message source failed: fetch failed: {reason}"
  | .process e => s!"message processing failed: {text e}"

end RunError

/-- Why the program stops before its work is done. -/
inductive Failure where
  /-- The settings cannot be loaded. -/
  | unloaded (e : SettingsError)
  /-- The settings do not suffice. -/
  | unusable (e : SettingsError)
  /-- The database of snapshots cannot be opened. -/
  | noSnapshots (path : String) (e : SnapshotError)
  /-- Events are to come from a file, but none is named. -/
  | noSourceFile
  /-- The file of events cannot be read. -/
  | unreadable (path : String) (fault : Files.Fault)
  /-- Events are to come from a broker. -/
  | noBroker
  /-- The reader stopped. -/
  | consumption (e : RunError ProjectionError)
deriving DecidableEq, Repr

namespace Failure

/-- The failure in words, from the outside in. -/
def chain : Failure → List String
  | .unloaded e => "failed to load configuration" :: e.message :: e.causes
  | .unusable e => "invalid configuration" :: e.message :: e.causes
  | .noSnapshots path e => s!"failed to open snapshot database {path}" :: e.message :: e.causes
  | .noSourceFile => ["EVS_SOURCE_FILE is required for the file source"]
  | .unreadable path fault => [
    s!"failed to read events from {path}",
    s!"failed to read replay file: {fault.message}",
    fault.message]
  | .noBroker =>
    ["kafka source selected but evs-consumer was built without the `kafka` feature"]
  | .consumption e =>
    "event consumption failed" :: e.message ProjectionError.message ::
      match e with
      | .source reason => [s!"fetch failed: {reason}"]
      | .process e => e.message :: e.causes

/-- A text whose lines after the first are moved in. -/
def hanging (indent : String) (text : String) : String :=
  String.intercalate ("\n" ++ indent) (Text.split '\n' text)

/-- A cause under its number. -/
def numbered (number : Nat) (cause : String) : String :=
  let digits := toString number
  String.ofList (List.replicate (5 - digits.length) ' ') ++ digits ++ ": "
    ++ hanging "       " cause

/-- A failure as it is reported: the outermost text, and then its causes, with numbers if
there are several. -/
def report (chain : List String) : String :=
  match chain with
  | [] => ""
  | [text] => s!"Error: {text}\n"
  | [text, cause] => s!"Error: {text}\n\nCaused by:\n" ++ "    " ++ hanging "    " cause ++ "\n"
  | text :: causes =>
    let lines := causes.zipIdx.map fun (cause, number) => numbered number cause ++ "\n"
    s!"Error: {text}\n\nCaused by:\n" ++ String.join lines

end Failure

end ClusterEvents
