import ClusterEvents.Projection.Process
import ClusterEvents.Proofs.Bulk.Sessions
import ClusterEvents.Proofs.Json.Printed
import ClusterEvents.Proofs.Json.Records
import ClusterEvents.Proofs.Text.ByteOrder

/-!
# The lines of a request

A request has two lines for each of its items, and its lines end where the store finds a
newline. None is in a printed value, whatever texts are in it, and since a character is
written with bytes of its own or with bytes beyond ASCII, none is among the bytes either
(`newline_not_mem`). So a request is cut into the lines it was put together from
(`splitOn_body`), and the first of two lines tells where the second is to be stored.
-/

namespace ClusterEvents

namespace Bytes

theorem le_of_mem_utf8EncodeChar {c : Char} (h : 0x20 ≤ c.toNat) {b : UInt8}
    (hb : b ∈ String.utf8EncodeChar c) : 0x20 ≤ b.toNat := by
  have hvalue : 0x20 ≤ c.val.toNat := h
  simp only [String.utf8EncodeChar] at hb
  generalize c.val.toNat = v at hvalue hb
  -- One byte is the character itself, and every byte of several is beyond ASCII.
  split at hb
  · obtain rfl := List.mem_singleton.1 hb
    rw [UInt8.toNat_ofNat', Nat.mod_eq_of_lt (by omega)]
    exact hvalue
  all_goals
    repeat' split at hb
    all_goals
      simp only [List.mem_cons, List.not_mem_nil, or_false] at hb
      rcases hb with rfl | rfl | rfl | rfl <;> rw [UInt8.toNat_ofNat'] <;> omega

/-- The bytes of one line have no newline. -/
theorem newline_not_mem {s : String} (h : SingleLine s.toList) :
    Bulk.Item.newline ∉ ofString s := by
  intro hmem
  rw [ofString_eq_flatMap] at hmem
  obtain ⟨c, hc, hb⟩ := List.mem_flatMap.1 hmem
  exact absurd (le_of_mem_utf8EncodeChar (h c hc) hb) (by decide)

end Bytes

theorem Json.singleLine_print (v : Json) : SingleLine v.print.toList := by
  rw [print, String.toList_ofList]
  exact v.singleLine_render

theorem EnrichedEvent.singleLine_encode (e : EnrichedEvent) : SingleLine e.encode.toList := by
  rw [encode, Document.print, String.toList_ofList]
  exact e.document.singleLine_render

/-! ## Lines of items -/

namespace Bulk

variable {κ : Type}

namespace Item

/-- The first line of an item. -/
def heading (item : Item κ) : Bytes :=
  Bytes.ofString item.action.print

theorem lines_eq (item : Item κ) :
    item.lines = item.heading ++ newline :: (item.body ++ newline :: []) := by
  simp [lines, heading]

theorem newline_not_mem_heading (item : Item κ) : newline ∉ item.heading :=
  Bytes.newline_not_mem item.action.singleLine_print

theorem isWhole_action (item : Item κ) : item.action.isWhole = true := by
  have hplace : (Json.obj (Object.ofList [("_index", .str item.index),
      ("_id", .str item.id)])).isWhole = true :=
    Object.isWhole_ofList (by simp [Json.isWhole])
  exact Object.isWhole_ofList (by simpa using hplace)

theorem depth_action_le (item : Item κ) : item.action.depth ≤ 2 := by
  have hplace : (Json.obj (Object.ofList [("_index", .str item.index),
      ("_id", .str item.id)])).depth ≤ 1 :=
    Object.depth_ofList_le (by simp [Json.depth])
  exact Object.depth_ofList_le (by simpa using hplace)

/-- The first line of an item says where it is to be stored. -/
theorem ofBytes_heading (item : Item κ) : Json.ofBytes item.heading = .ok item.action := by
  rw [Json.ofBytes, heading, Glyphs.ofBytes_ofString]
  exact Json.ofText_print item.isWhole_action (Nat.le_trans item.depth_action_le (by decide))

end Item

/-- A request is cut into two lines for each item, and nothing behind them. -/
theorem splitOn_body {batch : List (Item κ)} (h : ∀ item ∈ batch, Item.newline ∉ item.body) :
    (body batch).splitOn Item.newline =
      (batch.flatMap fun item => [item.heading, item.body]) ++ [[]] := by
  induction batch with
  | nil => rfl
  | cons item rest ih =>
      have hbody : Item.newline ∉ item.body := h item List.mem_cons_self
      have hrest := ih fun other hother => h other (List.mem_cons_of_mem item hother)
      have hlines : body (item :: rest) =
          item.heading ++ Item.newline :: (item.body ++ Item.newline :: body rest) := by
        rw [body, List.flatMap_cons, Item.lines_eq]
        simp [body]
      rw [hlines, List.splitOn_append_cons_self_of_not_mem item.newline_not_mem_heading,
        List.splitOn_append_cons_self_of_not_mem hbody, hrest]
      rfl

/-- What is cut into parts after something was done to each element is cut before as well. -/
theorem exists_chunks {α β : Type} {f : α → β} {parts : List (List β)} {l : List α}
    (h : parts.flatten = l.map f) :
    ∃ chunks : List (List α), chunks.flatten = l ∧ parts = chunks.map (List.map f) := by
  induction parts generalizing l with
  | nil =>
      obtain rfl := List.map_eq_nil_iff.1 h.symm
      exact ⟨[], rfl, rfl⟩
  | cons part parts ih =>
      obtain ⟨first, later, rfl, rfl, hlater⟩ := List.map_eq_append_iff.1 h.symm
      obtain ⟨chunks, rfl, rfl⟩ := ih hlater.symm
      exact ⟨first :: chunks, rfl, rfl⟩

end Bulk

/-! ## Documents -/

/-- A document that is to be stored for a message, and the month in which this is asked. -/
structure Filing where
  month : Calendar.Month
  document : EnrichedEvent
  message : Message

namespace Projection

open Bulk

/-- The item of a document that is to be stored. -/
def filed (p : Projection) (x : Filing) : Item Message :=
  p.item x.month x.document x.message

theorem body_filed (p : Projection) (x : Filing) :
    (p.filed x).body = Bytes.ofString x.document.encode := by
  rw [filed, item]

theorem newline_not_mem_filed (p : Projection) (x : Filing) :
    Item.newline ∉ (p.filed x).body := by
  rw [body_filed]
  exact Bytes.newline_not_mem x.document.singleLine_encode

theorem splitOn_filed (p : Projection) (filings : List Filing) :
    (body (filings.map p.filed)).splitOn Item.newline =
      (filings.flatMap fun x => [(p.filed x).heading, Bytes.ofString x.document.encode]) ++
        [[]] := by
  have hbodies : ∀ item ∈ filings.map p.filed, Item.newline ∉ item.body := by
    intro item hitem
    obtain ⟨x, -, rfl⟩ := List.mem_map.1 hitem
    exact p.newline_not_mem_filed x
  rw [splitOn_body hbodies, List.flatMap_map]
  simp only [body_filed]

/-- Documents are sent in batches that have all of them in their order. Cut at its newlines,
a request has two lines for each document of its batch and an empty piece behind them: the
first line is read as where the document is to be stored, and the second is the document as
it is written. -/
theorem requests_framed (p : Projection) (answers : Nat → Answer) (flushBytes channelBuffer : Nat)
    (filings : List Filing) (acts : List (Act Message)) (s : Session Message)
    (hsubmitted : submitted acts = (filings.map p.filed).map .add ++ [.close])
    (hrun : Session.run? answers acts ⟨.new flushBytes channelBuffer, []⟩ = some s) :
    ∃ (batches : List (List Filing)) (heading : Filing → Bytes),
      batches.flatten = filings ∧ (∀ batch ∈ batches, batch ≠ []) ∧
      (∀ x, Json.ofBytes (heading x) = .ok (.obj (Object.ofList [("index",
        .obj (Object.ofList [
          ("_index", .str (EnrichedEvent.indexName p.indexPrefix x.document.eventTime x.month)),
          ("_id", .str x.document.id)]))]))) ∧
      (s.finish answers).indexer.sent.map (·.splitOn Item.newline) =
        batches.map fun batch =>
          (batch.flatMap fun x => [heading x, Bytes.ofString x.document.encode]) ++ [[]] := by
  obtain ⟨batches, hdelivered⟩ := Session.exists_delivered hsubmitted hrun
  have hitems : (batches.map fun batch => batch.map Prod.fst).flatten = filings.map p.filed := by
    rw [← List.map_flatten, ← hdelivered.settled, hdelivered.each]
  obtain ⟨chunks, rfl, hchunks⟩ := exists_chunks hitems
  refine ⟨chunks, fun x => (p.filed x).heading, rfl, ?_, fun x => (p.filed x).ofBytes_heading, ?_⟩
  · rintro chunk hchunk rfl
    have hempty : [] ∈ batches.map fun batch => batch.map Prod.fst :=
      hchunks ▸ List.mem_map_of_mem hchunk
    obtain ⟨batch, hbatch, hnil⟩ := List.mem_map.1 hempty
    exact hdelivered.nonempty batch hbatch (List.map_eq_nil_iff.1 hnil)
  · have hbodies : batches.map Batch.body = chunks.map fun chunk => body (chunk.map p.filed) := by
      have hmapped := congrArg (List.map body) hchunks
      rwa [List.map_map, List.map_map] at hmapped
    rw [hdelivered.sent, hbodies, List.map_map]
    exact List.map_congr_left fun chunk _ => p.splitOn_filed chunk

section Run

/-- A document with not much in it. -/
def note (id message : String) (versions : Option Object) : EnrichedEvent where
  id := id
  message := message
  category := ""
  clusterId := ""
  eventTime := ""
  name := ""
  requestId := ""
  severity := ""
  props := Object.empty
  cluster := Object.empty
  infraEnvs := []
  versions := versions
  releaseTag := none
  hostsSummary := none

/-- Documents with line ends and quotes in them, for an index with a line end in its name. -/
def torn : List Filing := [
  ⟨⟨2024, 1⟩, note "a\n" "\n\n" none, ⟨"events", 0, 0, [], [], []⟩⟩,
  ⟨⟨2024, 2⟩, note "\"b\r\n" "" (some (Object.ofList [("\n", .str "\n")])),
    ⟨"events", 0, 1, [], [], []⟩⟩]

/-- Each document is sent as soon as it is taken. -/
def tornVisit (p : Projection) : List (Act Message) :=
  (torn.map p.filed).flatMap (fun item => [.submit (.add item), .step, .step]) ++ [.submit .close]

theorem submitted_tornVisit (p : Projection) :
    submitted (tornVisit p) = (torn.map p.filed).map .add ++ [.close] := by
  simp [submitted, tornVisit, torn]

theorem requests_framed_torn :
    ∃ (s : Session Message) (batches : List (List Filing)) (heading : Filing → Bytes),
      Session.run? (fun _ => .lost "") (tornVisit { indexPrefix := "p\n" }) ⟨.new 1 1, []⟩ =
        some s ∧
      batches.flatten = torn ∧ batches.length = 2 ∧
      (∀ x, Json.ofBytes (heading x) = .ok (.obj (Object.ofList [("index",
        .obj (Object.ofList [
          ("_index", .str (EnrichedEvent.indexName "p\n" x.document.eventTime x.month)),
          ("_id", .str x.document.id)]))]))) ∧
      (s.finish fun _ => .lost "").indexer.sent.map (·.splitOn Item.newline) =
        batches.map fun batch =>
          (batch.flatMap fun x => [heading x, Bytes.ofString x.document.encode]) ++ [[]] := by
  have hends : ∃ s ∈ Session.run? (fun _ => .lost "") (tornVisit { indexPrefix := "p\n" })
      ⟨.new 1 1, []⟩, (s.finish fun _ => .lost "").indexer.sent.length = 2 := by decide +kernel
  obtain ⟨s, hs, hsent⟩ := hends
  obtain ⟨batches, heading, hall, -, hheading, hlines⟩ :=
    requests_framed { indexPrefix := "p\n" } (fun _ => .lost "") 1 1 torn _ s
      (submitted_tornVisit _) hs
  have hlength : batches.length = 2 := by
    simpa [hsent] using (congrArg List.length hlines).symm
  exact ⟨s, batches, heading, hs, hall, hlength, hheading, hlines⟩

end Run

end Projection

end ClusterEvents
