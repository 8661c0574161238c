import ClusterEvents.Files.Tree
import ClusterEvents.Stream.LocalQueue
import ClusterEvents.Proofs.Json.Printed
import ClusterEvents.Proofs.Json.Records
import ClusterEvents.Proofs.Text.Pieces

/-!
# Replaying published events

An event that is written is read as itself (`Event.ofBytes_encode`), as long as its numbers are
integers and there are levels left for the record around its payload and its metadata. A written
event is one line and not blank, so a file with one on each line has them as its lines
(`filledLines_intercalate`), and the queue of the file has all that was published, in its
order.
-/

namespace ClusterEvents

/-! ## Lines -/

namespace LocalQueue

theorem withoutReturn_of_singleLine {line : List Char} (h : SingleLine line) :
    withoutReturn line = line := by
  rw [withoutReturn, if_neg]
  intro hlast
  exact h.not_mem (by decide) (List.mem_of_getLast? hlast)

theorem lines_intercalate {pieces : List (List Char)}
    (h : ∀ piece ∈ pieces, SingleLine piece ∧ piece ≠ []) :
    lines (['\n'].intercalate pieces) = pieces := by
  by_cases hne : pieces = []
  · subst hne
    rfl
  · have hsplit : Text.splitOn '\n' (['\n'].intercalate pieces) = pieces :=
      Text.splitOn_intercalate hne fun piece hpiece => (h piece hpiece).1.not_mem (by decide)
    have hreturn : pieces.dropLast.map withoutReturn = pieces.dropLast := by
      refine (List.map_congr_left fun piece hpiece => ?_).trans (List.map_id' _)
      exact withoutReturn_of_singleLine (h piece ((List.dropLast_subset pieces) hpiece)).1
    -- A last piece with nothing on it would not count as a line.
    have hlast : (pieces.getLast hne).isEmpty = false :=
      List.isEmpty_eq_false_iff.2 (h _ (List.getLast_mem hne)).2
    simp only [lines, hsplit, hreturn, List.getLast?_eq_some_getLast hne, Option.getD_some, hlast]
    exact List.dropLast_concat_getLast hne

/-- Texts of one line each that are not blank, each on its own line, are the filled lines. -/
theorem filledLines_intercalate {texts : List String}
    (h : ∀ text ∈ texts, SingleLine text.toList ∧ text.toList.all Text.isBlank = false) :
    filledLines ("\n".intercalate texts) = texts := by
  have hlines : lines (['\n'].intercalate (texts.map String.toList)) =
      texts.map String.toList := by
    refine lines_intercalate fun piece hpiece => ?_
    obtain ⟨text, htext, rfl⟩ := List.mem_map.1 hpiece
    refine ⟨(h text htext).1, fun hnil => ?_⟩
    have hblank := (h text htext).2
    rw [hnil] at hblank
    cases hblank
  have hfilled : (texts.map String.toList).filter (fun line => !line.all Text.isBlank) =
      texts.map String.toList := by
    refine List.filter_eq_self.2 fun piece hpiece => ?_
    obtain ⟨text, htext, rfl⟩ := List.mem_map.1 hpiece
    rw [(h text htext).2]
    rfl
  have hnewline : "\n".toList = ['\n'] := rfl
  rw [filledLines, String.toList_intercalate, hnewline, hlines, hfilled, List.map_map]
  exact (List.map_congr_left fun text _ => String.ofList_toList).trans (List.map_id' texts)

end LocalQueue

/-! ## Events -/

namespace Event

/-- The numbers of the event are integers of sixty-four bits, and its payload and its metadata
nest so deep at most that the record around them can be read. -/
structure IsPortable (e : Event) : Prop where
  whole_payload : e.payload.isWhole = true
  whole_metadata : (Json.obj e.metadata).isWhole = true
  depth_payload : e.payload.depth ≤ 126
  depth_metadata : (Json.obj e.metadata).depth ≤ 126

/-- What is gathered from a written event. -/
def gathered (e : Event) : List (String × Json) :=
  [("metadata", .obj e.metadata), ("payload", e.payload), ("name", .str e.name)]

theorem ofRecord_complete {e : Event} {o : Object}
    (h : Json.complete fields e.gathered = some o) : ofRecord (.obj o) = e := by
  have hget := Json.get?_complete h
  have hmember (key : String) : (Json.obj o).member? key = o.get? key := rfl
  rw [ofRecord, hmember, hmember, hmember, hget, hget, hget]
  rfl

theorem takes_document {e : Event} (h : e.IsPortable) {o : Object}
    (ho : Json.complete fields e.gathered = some o) :
    Json.Takes (Json.Kind.record fields Json.depthLimit) e.document.render (.obj o) := by
  have hname := Json.takes_text 126 e.name
  have hpayload := Json.takes_readValue h.whole_payload h.depth_payload
  have hmetadata := (Json.takes_object h.whole_metadata h.depth_metadata).optional (by
    simp [Json.render])
  refine Json.takes_record ?_ ?_ ho
  · simp only [List.forall_mem_cons]
    exact ⟨⟨_, rfl, hname⟩, ⟨_, rfl, hpayload⟩, ⟨_, rfl, hmetadata⟩,
      List.forall_mem_nil _⟩
  · change ["name", "payload", "metadata"].Nodup
    decide

/-- A written event is read as itself. -/
theorem ofBytes_encode {e : Event} (h : e.IsPortable) :
    ofBytes (Bytes.ofString e.encode) = .ok e := by
  obtain ⟨o, ho⟩ : ∃ o, Json.complete fields e.gathered = some o := by
    refine Json.exists_complete ?_
    simp only [fields, List.forall_mem_cons]
    exact ⟨rfl, rfl, rfl, List.forall_mem_nil _⟩
  rw [ofBytes, Json.ofBytesAs, Glyphs.ofBytes_ofString, Glyphs.ofString, encode, Document.print,
    String.toList_ofList, (takes_document h ho).readText_eq]
  exact congrArg Except.ok (ofRecord_complete ho)

theorem singleLine_encode (e : Event) : SingleLine e.encode.toList := by
  rw [encode, Document.print, String.toList_ofList]
  exact Document.singleLine_render _

theorem encode_not_blank (e : Event) : e.encode.toList.all Text.isBlank = false := by
  rw [encode, Document.print, String.toList_ofList, document, Document.render, List.cons_append,
    List.all_cons]
  rfl

end Event

/-! ## The queue of a file -/

namespace LocalQueue

/-- The queue with one more message at its end. -/
def appended (q : LocalQueue) (key value : Bytes) : LocalQueue :=
  { q with
    waiting := q.waiting ++
      [{ topic := q.topic, partition := 0, offset := q.nextOffset, key, value }]
    nextOffset := q.nextOffset + 1 }

theorem push_of_open {q : LocalQueue} (h : q.closed = false) (key value : Bytes) :
    q.push key value = some ((q.nextOffset : Int), q.appended key value) := by
  simp [push, appended, h]

theorem foldlM_push {q : LocalQueue} (h : q.closed = false) (texts : List String) :
    texts.foldlM (fun q text => (push q [] (Bytes.ofString text)).map Prod.snd) q =
      some { q with
        waiting := q.waiting ++ (texts.zipIdx q.nextOffset).map fun (text, i) =>
          { topic := q.topic, partition := 0, offset := i, value := Bytes.ofString text }
        nextOffset := q.nextOffset + texts.length } := by
  induction texts generalizing q with
  | nil => simp
  | cons text texts ih =>
      have hopen : (q.appended [] (Bytes.ofString text)).closed = false := h
      rw [List.foldlM_cons, push_of_open h, Option.map_some]
      simp only [bind, Option.bind_some, ih hopen]
      simp [appended, Nat.add_comm, Nat.add_left_comm, List.zipIdx_cons]

/-- The queue of a text is what pushing its filled lines one by one, and closing then, leaves
of an empty one. -/
theorem foldlM_push_filledLines (topic text : String) :
    ((filledLines text).foldlM (fun q line => (push q [] (Bytes.ofString line)).map Prod.snd)
      { topic : LocalQueue }).map close = some (ofLines topic text) := by
  rw [foldlM_push rfl, Option.map_some, ofLines, close]
  simp

theorem filledLines_published (events : List Event) :
    filledLines ("\n".intercalate (events.map Event.encode)) = events.map Event.encode := by
  refine filledLines_intercalate fun text htext => ?_
  obtain ⟨e, -, rfl⟩ := List.mem_map.1 htext
  exact ⟨e.singleLine_encode, e.encode_not_blank⟩

/-- Events that are published, one on each line of a file, are replayed as they were: the
queue of the file has one message for each of them, numbered from zero on, whose value is the
written text, from which the event is read again. -/
theorem replay_published {files : Files} {path : String} {place : Place} {events : List Event}
    (hplace : files.locate path = .ok place)
    (hfile : files.get? place =
      some (.file (Bytes.ofString ("\n".intercalate (events.map Event.encode)))))
    (hportable : ∀ e ∈ events, e.IsPortable) :
    ∃ text, files.readText path = .ok text ∧
      (ofLines path text).closed = true ∧
      (ofLines path text).waiting.length = events.length ∧
      ∀ i (hi : i < events.length), ∃ message, (ofLines path text).waiting[i]? = some message ∧
        message =
          { topic := path
            partition := 0
            offset := i
            value := Bytes.ofString events[i].encode } ∧
        Event.ofBytes message.value = .ok events[i] := by
  refine ⟨"\n".intercalate (events.map Event.encode), ?_, rfl, ?_, fun i hi => ?_⟩
  · rw [Files.readText, hplace]
    simp only [bind, Except.bind, hfile, Bytes.toString?_ofString]
  · rw [ofLines, filledLines_published, List.length_map, List.length_zipIdx, List.length_map]
  · refine ⟨_, ?_, rfl, Event.ofBytes_encode (hportable _ (List.getElem_mem hi))⟩
    simp [ofLines, filledLines_published, hi]

/-- Two events with line ends and quotes in them, and nothing but an empty object in one. -/
theorem replay_published_two :
    let first : Event := ⟨"Event\r\n", .arr [.int (-1), .str "\n"], Object.ofList [("\"", .null)]⟩
    let second : Event := ⟨"", .null, .empty⟩
    let content := "\n".intercalate ([first, second].map Event.encode)
    let files : Files := ⟨[(["events"], .file (Bytes.ofString content))], []⟩
    ∃ text message, files.readText "events" = .ok text ∧
      (ofLines "events" text).waiting.length = 2 ∧
      (ofLines "events" text).waiting[1]? = some message ∧
      message.offset = 1 ∧ Event.ofBytes message.value = .ok second := by
  intro first second content files
  have hplace : files.locate "events" = .ok ["events"] := by
    decide +kernel
  have hfile : files.get? ["events"] = some (.file (Bytes.ofString content)) := rfl
  have hportable : ∀ e ∈ [first, second], e.IsPortable := by
    simp only [List.forall_mem_cons]
    exact ⟨⟨by decide +kernel, by decide +kernel, by decide +kernel, by decide +kernel⟩,
      ⟨by decide +kernel, by decide +kernel, by decide +kernel, by decide +kernel⟩,
      List.forall_mem_nil _⟩
  obtain ⟨text, hread, -, hlength, hmessages⟩ := replay_published hplace hfile hportable
  obtain ⟨message, hmessage, rfl, hevent⟩ := hmessages 1 (by decide)
  exact ⟨text, _, hread, hlength, hmessage, rfl, hevent⟩

end LocalQueue

end ClusterEvents
