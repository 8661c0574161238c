import ClusterEvents.Logging.Level

/-!
# Records

What the consumer tells about its work: a text, and the names of the particulars that
come with it. Targets name the parts of the consumer; filters refer to them, and to the
fields.
-/

namespace ClusterEvents.Logging

/-- Something told about the work. -/
structure Record where
  level : Level
  target : String
  text : String
  /-- The names of its particulars. -/
  particulars : List String := []
deriving DecidableEq, Repr

namespace Record

/-- The fields of a record: its text is one of them. -/
def fields (r : Record) : List String :=
  "message" :: r.particulars

def program : String := "evs_consumer"

def startup : String := "evs_consumer::bootstrap"

def reader : String := "evs_core::stream::reader"

def tracker : String := "evs_core::stream::ack"

def projection : String := "evs_core::projection"

def enrichment : String := "evs_core::projection::process"

def rules : String := "evs_core::projection::process::rules"

def documents : String := "evs_core::repository::opensearch"

def batches : String := "evs_core::bulk::opensearch"

def connections : String := "reqwest::connect"

def transport : String := "hyper_util::client::legacy::connect::http"

def pool : String := "hyper_util::client::legacy::pool"

def starting : Record :=
  ⟨.info, program, "starting event stream consumer", ["source", "snapshots", "ordering"]⟩

def stopped : Record := ⟨.info, program, "event stream consumer stopped", []⟩

def fatal : Record :=
  ⟨.error, program, "event stream consumer stopped on a fatal error", ["error"]⟩

def purged : Record := ⟨.info, startup, "expired snapshot groups removed", ["purged"]⟩

def unpurged : Record := ⟨.warn, startup, "could not purge expired snapshots", ["error"]⟩

def replaying : Record := ⟨.info, startup, "replaying events from file", ["path"]⟩

def drained : Record :=
  ⟨.info, startup, "consumer drained", ["committed", "indexed", "failed", "requests"]⟩

def finished : Record := ⟨.info, startup, "consume loop finished", ["processed"]⟩

def fetched : Record :=
  ⟨.debug, reader, "processing message", ["topic", "partition", "offset"]⟩

def unprocessed : Record :=
  ⟨.error, reader, "message processing failed, stopping consumer",
    ["partition", "offset", "error"]⟩

def unfetched : Record := ⟨.error, reader, "failed to fetch message", ["error"]⟩

def sourceClosed : Record := ⟨.info, reader, "message source closed", ["processed"]⟩

def shutdown : Record :=
  ⟨.info, reader, "shutdown requested, fetch loop stopped", ["processed"]⟩

def committed : Record := ⟨.debug, reader, "committed message", ["partition", "offset"]⟩

def abandoned : Record :=
  ⟨.warn, tracker, "offset never acknowledged, no longer holding back commits",
    ["partition", "offset", "limit"]⟩

def undecodable : Record :=
  ⟨.warn, projection, "could not decode event, discarding message",
    ["partition", "offset", "error"]⟩

def event : Record := ⟨.debug, projection, "processing event", ["name", "offset"]⟩

def malformed : Record :=
  ⟨.warn, projection, "malformed event discarded", ["name", "offset", "error"]⟩

def activity : Record := ⟨.debug, projection, "processing activity event", ["cluster_id"]⟩

def noCluster : Record :=
  ⟨.warn, projection, "could not retrieve cluster", ["cluster_id", "error"]⟩

def noHosts : Record := ⟨.warn, projection, "could not retrieve hosts", ["cluster_id", "error"]⟩

def noInfraEnvs : Record :=
  ⟨.warn, projection, "could not retrieve infra-envs", ["cluster_id", "error"]⟩

def excluded : Record :=
  ⟨.debug, projection, "skipping activity of excluded user", ["cluster_id"]⟩

def clusterState : Record := ⟨.debug, projection, "processing cluster state", ["cluster_id"]⟩

def hostState : Record :=
  ⟨.debug, projection, "processing host state", ["host_id", "cluster_id"]⟩

def infraEnvState : Record :=
  ⟨.debug, projection, "processing infra-env state", ["infra_env_id", "cluster_id"]⟩

def noProps : Record := ⟨.debug, enrichment, "event props are not a JSON object", ["error"]⟩

def skippedPath : Record := ⟨.debug, rules, "transform path skipped", ["stage", "error"]⟩

def lostShape : Record :=
  ⟨.warn, enrichment, "transformed document lost its shape, keeping event fields only",
    ["document_id", "error"]⟩

def queueing : Record :=
  ⟨.debug, documents, "queueing enriched event", ["index", "document_id"]⟩

def unindexed : Record :=
  ⟨.warn, documents, "failed to index enriched event", ["index", "document_id", "error"]⟩

def flushing : Record := ⟨.debug, batches, "flushing bulk request", ["items", "bytes"]⟩

/-- Where a record of a part that tells its work in another way comes from. -/
def origin : List String := ["log.target", "log.module_path", "log.file", "log.line"]

/-- What is told about connecting to the store: first that no connection is at hand, and
then about the new one. -/
def connecting : List Record := [
  ⟨.trace, pool, "checkout waiting for idle connection", []⟩,
  ⟨.debug, connections, "starting new connection", origin⟩,
  ⟨.trace, transport, "Http::connect", []⟩,
  ⟨.debug, transport, "connecting to", []⟩]

def requestFailed : Record := ⟨.warn, batches, "bulk request failed", ["items", "error"]⟩

def rejected : Record :=
  ⟨.warn, batches, "document rejected", ["index", "document_id", "status", "reason"]⟩

def workerStopped : Record := ⟨.debug, batches, "bulk worker stopped", []⟩

end Record

end ClusterEvents.Logging
