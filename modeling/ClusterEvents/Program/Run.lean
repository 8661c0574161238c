import ClusterEvents.Program.Failure
import ClusterEvents.Consumer.Schedule
import ClusterEvents.Files.Database
import ClusterEvents.Logging.Record
import ClusterEvents.Bulk.Wire
import ClusterEvents.Stream.LocalQueue

/-!
# A run of the consumer

The snapshots are opened first, and then the source. When both are there the consumer
works until its source ends, it is asked to stop, or a message cannot be handled. In any
case what was written to a database is in its file afterwards.
-/

namespace ClusterEvents

/-- The time of a run. -/
structure Clock where
  /-- Milliseconds since the beginning of 1970. -/
  millis : Int
  month : Calendar.Month
deriving DecidableEq, Repr

/-- What a run meets with. -/
structure Surroundings where
  files : Files
  clock : Clock
  /-- What the search store answers, by the number of requests before. -/
  answers : Nat → Bulk.Answer
  /-- It is asked to stop from the beginning. -/
  cancelled : Bool := false

/-- Snapshots that were opened. -/
structure OpenedSnapshots where
  store : SnapshotStore
  /-- Where their database is kept, if they are in one that is kept. -/
  place : Option Place := none
  /-- What every look at them and every change of them meets with. -/
  fault : Option SnapshotError := none

namespace OpenedSnapshots

/-- Snapshots in a database. One that is not kept is opened anew each time, and then
there is nothing in it, not even tables. -/
def ofDatabase (expiration : Duration) (opened : OpenedDatabase) : OpenedSnapshots where
  store := .durable expiration opened.tables
  place := opened.place
  fault := if opened.place.isNone then some (.database .noTables) else none

/-- The files once the snapshots are closed with a certain content. -/
def close (s : OpenedSnapshots) (store : SnapshotStore) (files : Files) : Files :=
  match store with
  | .durable _ tables => files.closeDatabase s.place tables
  | .memory _ => files

/-- Those who help carrying out decisions, given what the snapshots hold now. -/
def collaborators (s : OpenedSnapshots) (now : Int) (store : SnapshotStore) : Collaborators :=
  match s.fault with
  | some e => .failing e
  | none => store.collaborators now

end OpenedSnapshots

/-- What a run has come to. -/
structure Run where
  failure : Option Failure
  /-- The files afterwards. -/
  files : Files
  records : List Logging.Record
  /-- The bodies of the requests to the search store. -/
  requests : List Bytes := []

/-- What messages have led to so far. -/
structure Progress where
  store : SnapshotStore
  records : List Logging.Record := []

namespace Projection

open Logging in
/-- What is told about looking at the snapshots of a cluster. -/
def readRecords (reads : Reads) : List Record :=
  let failed (record : Record) (succeeded : Bool) : List Record :=
    if succeeded then [] else [record]
  failed .noHosts reads.hosts.toBool ++ failed .noInfraEnvs reads.infraEnvs.toBool

open Logging in
/-- What is told while a document is put together: about properties that cannot be read,
about paths that the rules skip, and about a document that is none afterwards. -/
def enrichmentRecords (p : Projection) (reads : Reads) (e : Event) : List Record :=
  let base := EnrichedEvent.base e (foundOr Object.empty reads.cluster)
    (foundOr [] reads.hosts) (foundOr [] reads.infraEnvs)
  let (document, skipped) := p.rules.run base.toJson
  (if EnrichedEvent.hasBadProps e then [.noProps] else [])
    ++ skipped.map (fun _ => .skippedPath)
    ++ (if (EnrichedEvent.ofJson? document).isNone then [.lostShape] else [])

open Logging in
/-- What is told about a decision about an event. -/
def decisionRecords (p : Projection) (reads : String → Reads) (e : Event) :
    Decision → List Record
  | .discard => [.malformed]
  | .refuse _ => []
  | .update ⟨.cluster _, _⟩ => [.clusterState]
  | .update ⟨.host .., _⟩ => [.hostState]
  | .update ⟨.infraEnv .., _⟩ => [.infraEnvState]
  | .skip _ => [.activity, .excluded]
  | .store cluster _ =>
    let reads := reads cluster
    .activity :: (if reads.cluster.toBool then [] else [.noCluster]) ++ readRecords reads
      ++ p.enrichmentRecords reads e ++ [.queueing]

open Logging in
/-- What is told about a message. -/
def records (p : Projection) (reads : String → Reads) (m : Message) : List Record :=
  match Event.ofBytes m.value with
  | .error _ => [.fetched, .undecodable]
  | .ok e => .fetched :: .event :: p.decisionRecords reads e (p.decide reads e)

/-- Processes a message, with the snapshots at hand. -/
def advance (p : Projection) (clock : Clock) (opened : OpenedSnapshots) (m : Message)
    (s : Progress) : StepOutcome Progress ProjectionError :=
  let helpers := opened.collaborators clock.millis s.store
  let processed := p.process clock.month helpers m
  { disposition := processed.disposition
    state := {
      store := s.store.after clock.millis processed
      records := s.records ++ p.records helpers.reads m } }

end Projection

namespace Settings

/-- How events are turned into snapshots and documents. -/
def projection (s : Settings) : Projection where
  rules := s.rules
  excluded := s.excludedUsers
  indexPrefix := s.store.indexPrefix

/-- Opens the snapshots. What is expired in a database is removed from it. The files are
those afterwards. -/
def openSnapshots (s : Settings) (files : Files) (clock : Clock) :
    Except Failure OpenedSnapshots × Files :=
  let expiration := s.snapshots.expiration
  match s.snapshots.backend with
  | .memory => (.ok { store := .memory { expiration } }, files)
  | .sqlite =>
    match files.openDatabase s.snapshots.databasePath with
    | (.error e, files) => (.error (.noSnapshots s.snapshots.databasePath e), files)
    | (.ok opened, files) =>
      let (_, tables) := opened.tables.purge clock.millis
      (.ok (.ofDatabase expiration { opened with tables }), files)

/-- Opens the source: the messages in a file, in its order. -/
def openSource (s : Settings) (files : Files) : Except Failure LocalQueue :=
  match s.source.kind with
  | .kafka => .error .noBroker
  | .file =>
    match s.source.file with
    | none => .error .noSourceFile
    | some path =>
      match files.readText path with
      | .ok text => .ok (.ofLines path text)
      | .error fault => .error (.unreadable path fault)

/-- The consumer at its start. -/
def consumer (s : Settings) (cancelled : Bool) (queue : LocalQueue) (store : SnapshotStore) :
    Consumer Progress ProjectionError where
  unfetched := queue.waiting
  cancelled := cancelled
  state := { store }
  tracker := match s.delivery.ordering with
    | .immediate => none
    | .contiguous => some (Tracker.withLimit s.delivery.maxPending)
  acks := Channel.withCapacity s.delivery.ackBuffer
  indexer := Bulk.Indexer.new s.store.flushBytes s.delivery.bulkBuffer

/-- What the consumer works with. -/
def wiring (s : Settings) (around : Surroundings) (opened : OpenedSnapshots) :
    Wiring Progress ProjectionError where
  process := s.projection.advance around.clock opened
  answers := around.answers
  unacknowledged := .unacknowledged
  unstored := .store .closed

/-- What is told when snapshots have been opened. -/
def snapshotRecords (s : Settings) (opened : OpenedSnapshots) : List Logging.Record :=
  match s.snapshots.backend with
  | .memory => []
  | .sqlite => [if opened.fault.isSome then .unpurged else .purged]

/-- Whether the search store has an address that one can connect to. -/
def hasEndpoint (s : Settings) : Bool :=
  let options := Bulk.Options.ofSettings s.store s.delivery.bulkBuffer
  (Bulk.Endpoint.ofAddress? options.endpoint).isSome

end Settings

namespace Consumer

open Logging in
/-- What is told about requests and their answers. Where there is something to connect
to, a connection is made first. -/
def answerRecords (w : Wiring Progress ProjectionError) (connects : Bool)
    (s : Consumer Progress ProjectionError) : List Record :=
  let told (number : Nat) : List Record :=
    .flushing :: (if connects then Record.connecting else []) ++
      match (w.answers number).results with
      | .error _ => [.requestFailed]
      | .ok results =>
        (results.filter fun result =>
          result.any fun r => !Bulk.Status.isSuccess r.status).map fun _ => .rejected
  (List.range s.indexer.sent.length).flatMap told
    ++ List.replicate s.indexer.stats.failed .unindexed

open Logging in
/-- What is told about how the reader ended. -/
def endRecord (s : Consumer Progress ProjectionError) : Record :=
  match s.phase.result? with
  | some (.error (.process _)) => .unprocessed
  | some (.error (.source _)) => .unfetched
  | some (.ok _) | none => if s.cancelled then .shutdown else .sourceClosed

open Logging in
/-- What is told about the work of a consumer that has finished. -/
def records (w : Wiring Progress ProjectionError) (connects : Bool)
    (s : Consumer Progress ProjectionError) : List Record :=
  s.state.records ++ s.endRecord :: s.answerRecords w connects
    ++ List.replicate s.abandoned .abandoned ++ s.commits.map (fun _ => .committed)
    ++ [.workerStopped, .drained]

/-- Why the reader stopped early, if it did. -/
def failure? (s : Consumer Progress ProjectionError) : Option Failure :=
  match s.phase.result? with
  | some (.error e) => some (.consumption e)
  | some (.ok _) | none => none

end Consumer

namespace Settings

/-- Runs the consumer. -/
def run (s : Settings) (around : Surroundings) : Run :=
  match s.openSnapshots around.files around.clock with
  | (.error e, files) => { failure := some e, files, records := [] }
  | (.ok opened, files) =>
    let before := s.snapshotRecords opened
    let files := opened.close opened.store files
    match s.openSource files with
    | .error e => { failure := some e, files, records := before }
    | .ok queue =>
      let w := s.wiring around opened
      let last := (s.consumer around.cancelled queue opened.store).finish w
      let failure := last.failure?
      let closing : List Logging.Record := if failure.isSome then [] else [.finished]
      { failure
        files := opened.close last.state.store files
        records := before ++ .replaying :: last.records w s.hasEndpoint ++ closing
        requests := last.indexer.sent }

end Settings

end ClusterEvents
