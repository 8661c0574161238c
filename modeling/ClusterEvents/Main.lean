import ClusterEvents.Program.Launch
import ClusterEvents.Program.Keys
import ClusterEvents.Bulk.Wire
import ClusterEvents.Snapshots.Archive
import ClusterEvents.Logging.Line
import Std.Time.DateTime.Timestamp
import Std.Async.TCP
import Std.Async.DNS

/-!
# The command line

The program in the world: its environment, files and time are read, the requests it wants
to send are sent, and what it leaves behind is written. What is sent does not depend on
the answers, so the requests of a run without any answer are the ones to send; the run
with their answers is the one that counts.
-/

namespace ClusterEvents.Main

/-- The variables that the program reads. -/
def readEnvironment : IO Environment := do
  let given ← environmentKeys.filterMapM fun key => do
    return (← IO.getEnv key).map fun value => (key, value)
  return Environment.ofList given

/-- Takes what is at a place into a tree. -/
def look (files : Files) (place : Place) : IO Files := do
  let path := (← IO.currentDir) / Files.pathOf place
  if ← path.isDir then return files.put place .directory
  else if ← path.pathExists then
    let content ← IO.FS.readBinFile path
    return files.put place (.ofBytes content.data.toList)
  else return files

/-- Takes what is on the way to paths into a tree. -/
def lookAt (files : Files) (paths : List String) : IO Files :=
  let places := paths.flatMap fun path => Files.way (files.placeByName path)
  places.foldlM look files

/-- Writes what has changed. -/
def store (before after : Files) : IO Unit :=
  for (place, entry) in Files.changes before after do
    match entry.bytes? with
    | none => IO.FS.createDirAll (Files.pathOf place)
    | some content => IO.FS.writeBinFile (Files.pathOf place) ⟨content.toArray⟩

open Std.Async in
/-- Reads from a connection until it is closed. -/
partial def receive (client : TCP.Socket.Client) (read : ByteArray) : Async ByteArray := do
  match ← client.recv? 65536 with
  | some bytes => receive client (read ++ bytes)
  | none => return read

open Std.Async in
/-- Sends a request to the first address of a server. -/
def exchange (endpoint : Bulk.Endpoint) (request : Bulk.Request) : Async Bulk.Answer := do
  let addresses ← DNS.getAddrInfo endpoint.host (toString endpoint.port)
  match addresses[0]? with
  | none => return .lost "error sending request"
  | some address =>
    let port := UInt16.ofNat endpoint.port
    let client ← TCP.Socket.Client.mk
    client.connect (match address with
      | .v4 addr => .v4 ⟨addr, port⟩
      | .v6 addr => .v6 ⟨addr, port⟩)
    client.send ⟨(request.render endpoint).toArray⟩
    let read ← receive client ByteArray.empty
    return Bulk.Answer.ofWire read.data.toList

/-- Sends a request, which is lost if anything goes wrong on the way. -/
def deliver (options : Bulk.Options) (body : Bytes) : IO Bulk.Answer := do
  match Bulk.Endpoint.ofAddress? options.endpoint with
  | none => return .lost "error sending request"
  | some endpoint =>
    try (exchange endpoint (options.request body)).block
    catch _ => return .lost "error sending request"

/-- The files that a run needs. -/
def readFiles (env : Environment) : IO (Files × Option Settings) := do
  let working := ({} : Files).placeByName (← IO.currentDir).toString
  let files ← lookAt { working } (settingsPaths env)
  match Settings.load env files with
  | .error _ => return (files, none)
  | .ok settings => return (← lookAt files settings.paths, some settings)

end ClusterEvents.Main

open ClusterEvents in
def main : IO UInt32 := do
  let env ← Main.readEnvironment
  let (files, settings) ← Main.readFiles env
  let now ← Std.Time.Timestamp.now
  let clock := Clock.ofMillis now.toMillisecondsSinceUnixEpoch.val.toNat
  let unanswered : Bulk.Answer := .lost "error sending request"
  let planned := program env { files, clock, answers := fun _ => unanswered }
  let answers ← match settings with
    | none => pure []
    | some s =>
      let options := Bulk.Options.ofSettings s.store s.delivery.bulkBuffer
      planned.requests.mapM (Main.deliver options)
  let left := program env { files, clock, answers := fun n => answers[n]?.getD unanswered }
  Main.store files left.files
  for record in left.shown do
    IO.println (record.line (Logging.Format.ofEnvironment env))
  IO.eprint left.report
  return UInt32.ofNat left.status
