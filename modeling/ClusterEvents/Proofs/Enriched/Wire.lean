import ClusterEvents.Proofs.Enriched.Documents
import ClusterEvents.Proofs.Json.Depth

/-!
# Enriched events on the wire

An enriched event without a summary, all of whose numbers are integers, is read back from the
text it is written as, unless it nests deeper than can be read (`ofBytes_encode`): what is left
out when it is empty comes back as what stands for a missing field. What has been read from any
text, in whichever form, nests no deeper than can be read again (`isPortable_of_ofBytes`), so
reading and writing once more changes nothing.
-/

namespace ClusterEvents

namespace EnrichedEvent

/-- The fields that are written, in their order. -/
def entries (e : EnrichedEvent) : List (String × Document) :=
  match e.document with
  | .value _ => []
  | .record entries => entries

theorem members_eq (e : EnrichedEvent) :
    e.members = Object.ofList (Document.fieldValues e.entries) := rfl

theorem nodup_names (e : EnrichedEvent) : (e.entries.map Prod.fst).Nodup := by
  have hunless (leftOut : Bool) (name : String) (field : Document) :
      ((fieldUnless leftOut (name, field)).map Prod.fst).Sublist [name] := by
    cases leftOut with
    | true => exact List.nil_sublist [name]
    | false => exact List.Sublist.refl [name]
  have hsub : (e.entries.map Prod.fst).Sublist (fields.map (·.name)) := by
    simp only [entries, document, List.map_append]
    exact ((((((List.Sublist.refl _).append (hunless ..)).append (List.Sublist.refl _)).append
      (hunless ..)).append (List.Sublist.refl _)).append (hunless ..)).append
      (List.Sublist.refl _)
  exact hsub.nodup (by decide)

theorem get?_members_iff {e : EnrichedEvent} {key : String} {v : Json} :
    e.members.get? key = some v ↔ ∃ field, (key, field) ∈ e.entries ∧ v = field.toJson := by
  rw [members_eq, Json.fieldValues_eq_map]
  constructor
  · intro h
    obtain ⟨⟨name, field⟩, hentry, heq⟩ := List.mem_map.1 (Object.mem_of_get?_ofList h)
    cases heq
    exact ⟨field, hentry, rfl⟩
  · rintro ⟨field, hentry, rfl⟩
    refine Object.get?_ofList_of_mem ?_ (List.mem_map_of_mem hentry)
    rw [List.map_map]
    exact e.nodup_names

/-- The enriched event has no summary, its numbers are integers of sixty-four bits, and its text
nests no deeper than can be read. -/
structure IsPortable (e : EnrichedEvent) : Prop where
  hostsSummary : e.hostsSummary = none
  whole : e.toJson.isWhole = true
  depth : e.toJson.depth ≤ 127

/-- The names of the fields that are texts. -/
def textNames : List String :=
  ["id", "message", "category", "cluster_id", "event_time", "name", "request_id", "severity"]

theorem forall_mem_fieldUnless {leftOut : Bool} {field : String × Document}
    {P : String × Document → Prop} (h : P field) :
    ∀ entry ∈ fieldUnless leftOut field, P entry := by
  cases leftOut with
  | true => exact List.forall_mem_nil P
  | false => exact List.forall_mem_singleton.2 h

theorem forall_mem_entries {e : EnrichedEvent} (hsummary : e.hostsSummary = none)
    {P : String × Document → Prop} (htexts : ∀ name ∈ textNames, ∀ s, P (name, .value (.str s)))
    (hevent : P ("event", .record [("props", .value (.obj e.props))]))
    (hcluster : P ("cluster", .value (.obj e.cluster)))
    (hinfraEnvs : P ("infra_envs", .value (.arr e.infraEnvs)))
    (hversions : P ("versions", .value ((e.versions.map .obj).getD .null)))
    (hreleaseTag : P ("release_tag", .value ((e.releaseTag.map .str).getD .null)))
    (hnone : P ("hosts_summary", .value .null)) : ∀ entry ∈ e.entries, P entry := by
  simp only [textNames, List.forall_mem_cons] at htexts
  obtain ⟨hid, hmessage, hcategory, hclusterId, heventTime, hname, hrequestId, hseverity, -⟩ :=
    htexts
  have hnil := List.forall_mem_nil P
  simp only [entries, document, List.forall_mem_append, List.forall_mem_cons, hsummary]
  exact ⟨⟨⟨⟨⟨⟨⟨hid _, hmessage _, hcategory _, hclusterId _, heventTime _, hname _, hrequestId _,
    hseverity _, hnil⟩, forall_mem_fieldUnless hevent⟩, hcluster, hnil⟩,
    forall_mem_fieldUnless hinfraEnvs⟩, hversions, hnil⟩, forall_mem_fieldUnless hreleaseTag⟩,
    hnone, hnil⟩

/-! ## Reading back what was written -/

/-- The field is taken off by the field of its name, within the levels left to it. -/
def IsTaken (entry : String × Document) : Prop :=
  entry.2.toJson.isWhole = true → entry.2.toJson.depth ≤ 126 →
    ∃ field, fields.find? (·.name == entry.1) = some field ∧
      Json.Takes (field.kind 126) entry.2.render entry.2.toJson

theorem find?_of_mem_textNames : ∀ name ∈ textNames,
    fields.find? (·.name == name) = some ⟨name, Json.Kind.text, some (.str "")⟩ := by
  simp only [textNames, List.forall_mem_cons]
  exact ⟨rfl, rfl, rfl, rfl, rfl, rfl, rfl, rfl, List.forall_mem_nil _⟩

theorem isTaken_text {name : String} (hname : name ∈ textNames) (s : String) :
    IsTaken (name, .value (.str s)) := by
  intro _ _
  exact ⟨_, find?_of_mem_textNames name hname, Json.takes_text 126 s⟩

theorem isTaken_event (props : Object) :
    IsTaken ("event", .record [("props", .value (.obj props))]) := by
  intro hwhole hdepth
  have hmem : ("props", Json.obj props) ∈ (Object.ofList [("props", .obj props)]).toList :=
    List.mem_singleton.2 rfl
  have hprops : (Json.obj props).isWhole = true := Members.isWhole_iff.1 hwhole _ hmem
  -- One level is for the record itself, so the properties have one less than a cluster has.
  have hlevels : (Json.obj props).depth ≤ 125 :=
    Members.depth_le_iff.1 (Nat.le_of_succ_le_succ hdepth) _ hmem
  have htakes : Json.Takes (Json.Kind.record propsFields 126)
      (Document.record [("props", .value (.obj props))]).render
      (.obj (Object.ofList [("props", .obj props)])) := by
    refine Json.takes_record ?_ ?_ rfl
    · rw [List.forall_mem_singleton]
      exact ⟨_, rfl, Json.takes_object hprops hlevels⟩
    · exact List.pairwise_singleton _ "props"
  exact ⟨_, rfl, htakes⟩

theorem isTaken_versions (versions : Option Object) :
    IsTaken ("versions", .value ((versions.map .obj).getD .null)) := by
  intro hwhole hdepth
  cases versions with
  | none => exact ⟨_, rfl, Json.takes_null _ 126⟩
  | some o => exact ⟨_, rfl, (Json.takes_object hwhole hdepth).optional (by simp [Json.render])⟩

theorem isTaken_releaseTag (tag : Option String) :
    IsTaken ("release_tag", .value ((tag.map .str).getD .null)) := by
  intro _ _
  cases tag with
  | none => exact ⟨_, rfl, Json.takes_null _ 126⟩
  | some s => exact ⟨_, rfl, (Json.takes_text 126 s).optional (by simp [Json.quoted])⟩

theorem isTaken_entry {e : EnrichedEvent} (hsummary : e.hostsSummary = none) :
    ∀ entry ∈ e.entries, IsTaken entry := by
  have hcluster : IsTaken ("cluster", .value (.obj e.cluster)) := by
    intro hwhole hdepth
    exact ⟨_, rfl, Json.takes_object hwhole hdepth⟩
  have hinfraEnvs : IsTaken ("infra_envs", .value (.arr e.infraEnvs)) := by
    intro hwhole hdepth
    exact ⟨_, rfl, Json.takes_items hwhole hdepth⟩
  have hnone : IsTaken ("hosts_summary", .value .null) := by
    intro _ _
    exact ⟨_, rfl, Json.takes_null _ 126⟩
  exact forall_mem_entries hsummary (fun _ hname => isTaken_text hname) (isTaken_event e.props)
    hcluster hinfraEnvs (isTaken_versions e.versions) (isTaken_releaseTag e.releaseTag) hnone

theorem IsPortable.depth_le {e : EnrichedEvent} (h : e.IsPortable) {entry : String × Document}
    (hentry : entry ∈ e.entries) : entry.2.toJson.depth ≤ 126 :=
  Members.depth_le_iff_get?.1 (Nat.le_of_succ_le_succ h.depth) entry.1 _
    (get?_members_iff.2 ⟨entry.2, hentry, rfl⟩)

theorem IsPortable.isWhole {e : EnrichedEvent} (h : e.IsPortable) {entry : String × Document}
    (hentry : entry ∈ e.entries) : entry.2.toJson.isWhole = true :=
  Members.isWhole_iff.1 h.whole (entry.1, entry.2.toJson)
    (Members.mem_toList_iff.2 (get?_members_iff.2 ⟨entry.2, hentry, rfl⟩))

theorem takes_document {e : EnrichedEvent} (h : e.IsPortable) {o : Object}
    (ho : Json.complete fields (Document.fieldValues e.entries).reverse = some o) :
    Json.Takes (Json.Kind.record fields Json.depthLimit) e.document.render (.obj o) := by
  refine Json.takes_record (fun entry hentry => ?_) e.nodup_names ho
  exact isTaken_entry h.hostsSummary entry hentry (h.isWhole hentry) (h.depth_le hentry)

/-- A complete record has what was written under a key, or else what stands for it. -/
theorem get?_of_complete {e : EnrichedEvent} {o : Object}
    (ho : Json.complete fields (Document.fieldValues e.entries).reverse = some o) {key : String}
    {default : Json}
    (hdefault : (fields.find? (·.name == key)).bind Json.Field.default = some default) :
    o.get? key = (e.members.get? key).or (some default) := by
  obtain ⟨field, hfield, hdefault⟩ := Option.bind_eq_some_iff.1 hdefault
  have hname : field.name = key := by simpa using List.find?_some hfield
  rw [Json.get?_complete ho, hfield, Option.bind_some, hdefault, hname, members_eq,
    Object.get?_ofList]

/-- What stands for a missing field reads as a missing field does. -/
theorem readsAs_of_complete {e : EnrichedEvent} (hsummary : e.hostsSummary = none) {o : Object}
    (ho : Json.complete fields (Document.fieldValues e.entries).reverse = some o) :
    ReadsAs o e := by
  have hread {α : Type} {read : Option Json → α} {key : String} {default : Json} {r : α}
      (h : read (e.members.get? key) = r)
      (hdefault : (fields.find? (·.name == key)).bind Json.Field.default = some default)
      (hmissing : read (some default) = read none) : read (o.get? key) = r := by
    rw [get?_of_complete ho hdefault, ← h]
    cases e.members.get? key with
    | none => exact hmissing
    | some v => rfl
  obtain h := readsAs_members hsummary
  constructor
  case id => exact hread h.id rfl rfl
  case message => exact hread h.message rfl rfl
  case category => exact hread h.category rfl rfl
  case clusterId => exact hread h.clusterId rfl rfl
  case eventTime => exact hread h.eventTime rfl rfl
  case name => exact hread h.name rfl rfl
  case requestId => exact hread h.requestId rfl rfl
  case severity => exact hread h.severity rfl rfl
  case props => exact hread h.props rfl rfl
  case cluster => exact hread h.cluster rfl rfl
  case infraEnvs => exact hread h.infraEnvs rfl rfl
  case versions => exact hread h.versions rfl rfl
  case releaseTag => exact hread h.releaseTag rfl rfl
  case hostsSummary => exact hread h.hostsSummary rfl rfl

/-- A portable event is read back from the text it is written as. -/
theorem ofBytes_encode {e : EnrichedEvent} (h : e.IsPortable) :
    ofBytes (Bytes.ofString e.encode) = .ok e := by
  obtain ⟨o, ho⟩ : ∃ o,
      Json.complete fields (Document.fieldValues e.entries).reverse = some o := by
    refine Json.exists_complete ?_
    simp [fields]
  have hread := ofJson?_of_readsAs (readsAs_of_complete h.hostsSummary ho)
  have htext := (takes_document h ho).readText_eq
  rw [ofBytes, Json.ofBytesAs, Glyphs.ofBytes_ofString, Glyphs.ofString, encode, Document.print,
    String.toList_ofList, htext]
  simp only [bind, Except.bind, hread]

/-! ## What has been read -/

section

variable {d : Nat} {v : Option Json}

theorem depth_of_objectField? (hd : 0 < d) (hv : ∀ w ∈ v, w.depth ≤ d) {o : Object}
    (h : objectField? v = some o) : (Json.obj o).depth ≤ d := by
  cases v with
  | none =>
      cases h
      exact hd
  | some w =>
      cases w with
      | obj o' =>
          cases h
          exact hv _ rfl
      | _ => cases h

theorem depth_of_listField? (hd : 0 < d) (hv : ∀ w ∈ v, w.depth ≤ d) {items : List Json}
    (h : listField? v = some items) : (Json.arr items).depth ≤ d := by
  cases v with
  | none =>
      cases h
      exact hd
  | some w =>
      cases w with
      | arr items' =>
          cases h
          exact hv _ rfl
      | _ => cases h

theorem depth_of_versionsField? (hv : ∀ w ∈ v, w.depth ≤ d) {versions : Option Object}
    (h : nullableField? Json.object? v = some versions) :
    ((versions.map Json.obj).getD .null).depth ≤ d := by
  cases v with
  | none =>
      cases h
      exact Nat.zero_le d
  | some w =>
      cases w with
      | null =>
          cases h
          exact Nat.zero_le d
      | obj o =>
          cases h
          exact hv _ rfl
      | _ => cases h

theorem depth_of_fields? {names : List String} {record : Json} {field : String → Option Json}
    (hrecord : record.depth ≤ d + 1) (h : Json.fields? names record = some field) (name : String) :
    ∀ w ∈ field name, w.depth ≤ d := by
  intro w hw
  cases record with
  | obj o =>
      cases h
      exact Members.depth_le_iff_get?.1 (Nat.le_of_succ_le_succ hrecord) name w hw
  | arr items =>
      rw [Json.fields?] at h
      split at h
      · cases h
        obtain ⟨l, r, hzip, -⟩ := List.lookup_eq_some_iff.1 hw
        have hmem : (name, w) ∈ names.zip items := by simp [hzip]
        exact Json.depthItems_le_iff.1 (Nat.le_of_succ_le_succ hrecord) w (List.of_mem_zip hmem).2
      · cases h
  | _ => cases h

theorem depth_of_propsField? (hd : 0 < d) (hv : ∀ w ∈ v, w.depth ≤ d + 1) {props : Object}
    (h : propsField? v = some props) : (Json.obj props).depth ≤ d := by
  cases v with
  | none =>
      cases h
      exact hd
  | some record =>
      obtain ⟨field, hfield, hprops⟩ := Option.bind_eq_some_iff.1 h
      exact depth_of_objectField? hd (depth_of_fields? (hv record rfl) hfield "props") hprops

end

/-- An enriched event nests no deeper than what it is read from, if that is not flat. -/
theorem depth_toJson_le {e : EnrichedEvent} (hsummary : e.hostsSummary = none) {o : Object}
    (h : ReadsAs o e) {d : Nat} (ho : (Json.obj o).depth ≤ d + 3) :
    e.toJson.depth ≤ d + 3 := by
  have hget (key : String) : ∀ w ∈ o.get? key, w.depth ≤ d + 2 := by
    intro w hw
    exact Members.depth_le_iff_get?.1 (Nat.le_of_succ_le_succ ho) key w hw
  -- Where a section is missing, an empty one of one level stands for it.
  have hprops : (Json.obj e.props).depth ≤ d + 1 :=
    depth_of_propsField? (Nat.succ_pos _) (hget "event") h.props
  have hcluster : (Json.obj e.cluster).depth ≤ d + 2 :=
    depth_of_objectField? (Nat.succ_pos _) (hget "cluster") h.cluster
  have hinfraEnvs : (Json.arr e.infraEnvs).depth ≤ d + 2 :=
    depth_of_listField? (Nat.succ_pos _) (hget "infra_envs") h.infraEnvs
  have hversions : ((e.versions.map Json.obj).getD .null).depth ≤ d + 2 :=
    depth_of_versionsField? (hget "versions") h.versions
  have htag : ((e.releaseTag.map Json.str).getD .null).depth ≤ d + 2 := by
    cases e.releaseTag <;> exact Nat.zero_le _
  have hevent : (Document.record [("props", .value (.obj e.props))]).toJson.depth ≤ d + 2 :=
    Nat.succ_le_succ (Nat.max_le.2 ⟨hprops, Nat.zero_le _⟩)
  have hentries : ∀ entry ∈ e.entries, entry.2.toJson.depth ≤ d + 2 :=
    forall_mem_entries hsummary (fun _ _ _ => Nat.zero_le _) hevent hcluster hinfraEnvs hversions
      htag (Nat.zero_le _)
  refine Nat.succ_le_succ (Members.depth_le_iff_get?.2 fun key w hw => ?_)
  obtain ⟨field, hentry, rfl⟩ := get?_members_iff.1 hw
  exact hentries (key, field) hentry

theorem yields_hostsSummary (d : Nat) :
    Json.Yields (Json.Kind.record HostsSummary.fields (d + 1)) (·.depth ≤ d + 1) := by
  have hkinds : ∀ field ∈ HostsSummary.fields, Json.Yields (field.kind d) (·.depth ≤ d) := by
    simp only [HostsSummary.fields, List.forall_mem_cons]
    have hshares := Json.yields_table (Json.yields_table Json.yields_double)
    exact ⟨Json.yields_natural _ d, Json.yields_text d, hshares d, Json.yields_truth d,
      List.forall_mem_nil _⟩
  have hdefaults : ∀ field ∈ HostsSummary.fields, ∀ v ∈ field.default, v.depth ≤ d := by
    simp [HostsSummary.fields]
  intro text rest v hread
  obtain ⟨o, -, hdepth⟩ := Json.yields_record hkinds hdefaults hread
  exact hdepth

theorem yields_event :
    Json.Yields (Json.Kind.record propsFields 126) (·.depth ≤ 126) := by
  have hkinds : ∀ field ∈ propsFields, Json.Yields (field.kind 125) (·.depth ≤ 125) := by
    rw [propsFields, List.forall_mem_singleton]
    exact Json.yields_table Json.yields_readValue 125
  have hdefaults : ∀ field ∈ propsFields, ∀ v ∈ field.default, v.depth ≤ 125 := by
    simp [propsFields, Json.depth, Object.empty, Members.depth]
  intro text rest v hread
  obtain ⟨o, -, hdepth⟩ := Json.yields_record hkinds hdefaults hread
  exact hdepth

theorem yields_fields :
    ∀ field ∈ fields, Json.Yields (field.kind 126) (·.depth ≤ 126) := by
  have htext := Json.yields_text 126
  have hobject := Json.yields_table Json.yields_readValue 126
  have hitems := Json.yields_list Json.yields_readValue 126
  simp only [fields, List.forall_mem_cons]
  exact ⟨htext, htext, htext, htext, htext, htext, htext, htext, yields_event, hobject, hitems,
    Json.yields_optional hobject, Json.yields_optional htext,
    Json.yields_optional (yields_hostsSummary 125), List.forall_mem_nil _⟩

theorem exists_readsAs_of_ofBytes {bytes : Bytes} {e : EnrichedEvent} (h : ofBytes bytes = .ok e) :
    ∃ o, ReadsAs o e ∧ (Json.obj o).depth ≤ 127 := by
  obtain ⟨record, hrecord, h⟩ := Json.bind_eq_ok.1 h
  obtain ⟨⟨v, rest⟩, hread, hrecord⟩ := Json.bind_eq_ok.1 hrecord
  have hdefaults : ∀ field ∈ fields, ∀ v ∈ field.default, v.depth ≤ 126 := by
    simp [fields, Json.depth, Object.empty, Members.depth, Json.depthItems]
  obtain ⟨o, rfl, hdepth⟩ := Json.yields_record yields_fields hdefaults hread
  dsimp only at hrecord
  split at hrecord
  · cases hrecord
    split at h
    · rename_i hofJson
      cases h
      exact ⟨o, readsAs_of_ofJson? hofJson, hdepth⟩
    · cases h
  · cases hrecord

/-- What has been read, in whichever form, nests no deeper than can be read. -/
theorem isPortable_of_ofBytes {bytes : Bytes} {e : EnrichedEvent} (h : ofBytes bytes = .ok e)
    (hsummary : e.hostsSummary = none) (hwhole : e.toJson.isWhole = true) : e.IsPortable := by
  obtain ⟨o, hreads, hdepth⟩ := exists_readsAs_of_ofBytes h
  exact ⟨hsummary, hwhole, depth_toJson_le hsummary hreads hdepth⟩

/-- Enriched events survive the wire. One without a summary, whose numbers are integers and whose
text can be read at all, is read from its text as itself. And where one has been read from any
bytes, what it is written as is read as the same again, and written in the same characters. -/
theorem survives_wire :
    (∀ e : EnrichedEvent, e.IsPortable → ofBytes (Bytes.ofString e.encode) = .ok e) ∧
      ∀ (bytes : Bytes) (e : EnrichedEvent), ofBytes bytes = .ok e →
        e.hostsSummary = none → e.toJson.isWhole = true →
        ofBytes (Bytes.ofString e.encode) = .ok e ∧
          (ofBytes (Bytes.ofString e.encode)).map encode = .ok e.encode := by
  refine ⟨fun e h => ofBytes_encode h, fun bytes e h hsummary hwhole => ?_⟩
  have hread := ofBytes_encode (isPortable_of_ofBytes h hsummary hwhole)
  exact ⟨hread, by rw [hread]; rfl⟩

/-- A text with a field nobody asked for, one that is null, and the properties in a list. -/
theorem survives_wire_listed :
    let text := "\x7b\"unknown\":[1e5],\"event\":[\x7b\"k\":[-1]\x7d]," ++
      "\"versions\":null,\"id\":\"\\n\"\x7d"
    let e : EnrichedEvent :=
      ⟨"\n", "", "", "", "", "", "", "", Object.ofList [("k", .arr [.int (-1)])], .empty, [],
        none, none, none⟩
    ofBytes (Bytes.ofString text) = .ok e ∧
      ofBytes (Bytes.ofString e.encode) = .ok e ∧
      (ofBytes (Bytes.ofString e.encode)).map encode = .ok e.encode := by
  intro text e
  have hread : ofBytes (Bytes.ofString text) = .ok e := by
    rw [ofBytes, Json.ofBytesAs, Glyphs.ofBytes_ofString]
    decide +kernel
  have hportable : e.IsPortable := ⟨rfl, by decide +kernel, by decide +kernel⟩
  exact ⟨hread, survives_wire.1 e hportable,
    (survives_wire.2 (Bytes.ofString text) e hread rfl hportable.whole).2⟩

end EnrichedEvent

end ClusterEvents
