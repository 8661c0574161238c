import ClusterEvents.Program.Run
import ClusterEvents.Logging.Setup
import ClusterEvents.Logging.Filter

/-!
# The program

The program loads its settings, checks them, and runs the consumer. It leaves with a
status, a report of its failure if it failed, and the records that its filter shows.
-/

namespace ClusterEvents

/-- What the program leaves behind. -/
structure Departure where
  /-- The exit status. -/
  status : Nat
  /-- The report of a failure; empty if there was none. -/
  report : String
  /-- The records that are shown. -/
  shown : List Logging.Record
  files : Files
  /-- The bodies of the requests to the search store. -/
  requests : List Bytes

/-- The program without its filter: a failure before it starts says nothing but its
report. -/
def launch (env : Environment) (around : Surroundings) : Run :=
  match Settings.load env around.files with
  | .error e => { failure := some (.unloaded e), files := around.files, records := [] }
  | .ok s =>
    match s.check with
    | .error e => { failure := some (.unusable e), files := around.files, records := [] }
    | .ok _ =>
      let run := s.run around
      let closing : Logging.Record := if run.failure.isSome then .fatal else .stopped
      { run with records := .starting :: run.records ++ [closing] }

/-- The program. -/
def program (env : Environment) (around : Surroundings) : Departure :=
  let filter := Logging.Filter.ofText (Logging.directives env)
  let run := launch env around
  { status := if run.failure.isSome then 1 else 0
    report := match run.failure with
      | some failure => Failure.report failure.chain
      | none => ""
    shown := run.records.filter filter.shows
    files := run.files
    requests := run.requests }

end ClusterEvents
