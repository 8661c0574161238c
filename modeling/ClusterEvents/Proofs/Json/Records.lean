import Mathlib.Data.List.Induction
import ClusterEvents.Json.Record
import ClusterEvents.Proofs.Json.RoundTrip

/-!
# Reading records back

A record is read back when each of its fields is: `takes_record`. What is read has all
declared fields, and under each of them what was written, or else what stands for a missing
field (`get?_complete`).
-/

namespace ClusterEvents

namespace Object

theorem get?_ofList_append (l r : List (String × Json)) (key : String) :
    (ofList (l ++ r)).get? key = ((ofList r).get? key).or ((ofList l).get? key) := by
  induction r using List.reverseRecOn with
  | nil => simp [ofList, empty]
  | append_singleton r member ih =>
      simp only [ofList, ← List.append_assoc, List.foldl_append, List.foldl_cons,
        List.foldl_nil, Members.get?_insert] at ih ⊢
      split
      · rfl
      · exact ih

theorem get?_ofList_cons (k : String) (v : Json) (l : List (String × Json)) (key : String) :
    (ofList ((k, v) :: l)).get? key =
      ((ofList l).get? key).or (if key = k then some v else none) := by
  rw [← List.singleton_append, get?_ofList_append]
  exact congrArg _ (Members.get?_insert ..)

theorem get?_ofList_nil (key : String) : (ofList []).get? key = none := rfl

/-- Of several members under one key the last is found. -/
theorem get?_ofList (l : List (String × Json)) (key : String) :
    (ofList l).get? key = l.reverse.lookup key := by
  induction l with
  | nil => rfl
  | cons member l ih =>
      rw [get?_ofList_cons, ih, List.reverse_cons, List.lookup_append, List.lookup_cons,
        List.lookup_nil]
      by_cases h : key = member.1
      · rw [if_pos h, beq_iff_eq.2 h]
      · rw [if_neg h, beq_false_of_ne h]

theorem mem_of_get?_ofList {l : List (String × Json)} {key : String} {v : Json}
    (h : (ofList l).get? key = some v) : (key, v) ∈ l := by
  rw [get?_ofList] at h
  obtain ⟨l₁, l₂, hl, -⟩ := List.lookup_eq_some_iff.1 h
  rw [← List.mem_reverse, hl]
  exact List.mem_append_right l₁ List.mem_cons_self

theorem get?_ofList_of_mem {l : List (String × Json)} (hkeys : (l.map Prod.fst).Nodup)
    {key : String} {v : Json} (h : (key, v) ∈ l) : (ofList l).get? key = some v := by
  induction l with
  | nil => cases h
  | cons member l ih =>
      obtain ⟨hnew, hkeys⟩ := List.nodup_cons.1 hkeys
      rw [get?_ofList_cons]
      rcases List.mem_cons.1 h with rfl | hmem
      · have hnone : (ofList l).get? key = none := by
          refine Option.eq_none_iff_forall_ne_some.2 fun w hw => hnew ?_
          exact List.mem_map.2 ⟨(key, w), mem_of_get?_ofList hw, rfl⟩
        rw [hnone, if_pos rfl]
        rfl
      · rw [ih hkeys hmem]
        rfl

theorem isWhole_ofList {l : List (String × Json)} (h : ∀ member ∈ l, member.2.isWhole = true) :
    (Json.obj (ofList l)).isWhole = true :=
  Members.isWhole_iff.2 fun member hmember =>
    h member (mem_of_get?_ofList (Members.mem_toList_iff.1 hmember))

theorem depth_ofList_le {l : List (String × Json)} {d : Nat}
    (h : ∀ member ∈ l, member.2.depth ≤ d) : (Json.obj (ofList l)).depth ≤ d + 1 :=
  Nat.succ_le_succ (Members.depth_le_iff_get?.2 fun key v hv => h (key, v) (mem_of_get?_ofList hv))

end Object

namespace Json

/-! ## Values of a kind -/

section

variable {kind : KindReader} {d : Nat}

theorem takes_text (d : Nat) (s : String) : Takes (Kind.text d) (quoted s) (.str s) where
  opens := ⟨'"', _, rfl, rfl⟩
  read_eq {rest} _ := by
    rw [quoted, List.cons_append, List.map_cons, List.cons_append, Kind.text,
      skipBlanks_of_opensValue (c := '"') rfl]
    simp [bind, Except.bind, readString_written]

theorem takes_list {items : List Json} (h : ∀ v ∈ items, Takes (kind d) v.render v) :
    Takes (Kind.list kind (d + 1)) (render (.arr items)) (.arr items) where
  opens := ⟨'[', _, rfl, rfl⟩
  read_eq {rest} _ := by
    rw [map_some_render_arr, Kind.list, skipBlanks_of_opensValue (c := '[') rfl]
    simp only [bind, Except.bind, readElements_written h rest]

theorem takes_table {o : Object}
    (h : ∀ member ∈ o.toList, Takes (kind d) member.2.render member.2) :
    Takes (Kind.table kind (d + 1)) (render (.obj o)) (.obj o) where
  opens := ⟨'{', _, rfl, rfl⟩
  read_eq {rest} _ := by
    rw [map_some_render_obj, Kind.table, skipBlanks_of_opensValue (c := '{') rfl]
    simp only [bind, Except.bind, readMembers_render o h rest]

theorem takes_null (kind : KindReader) (d : Nat) :
    Takes (Kind.optional kind d) (render .null) .null :=
  ⟨⟨'n', _, rfl, rfl⟩, fun _ => rfl⟩

/-- Only null begins like null. -/
theorem Takes.optional {text : List Char} {v : Json} (h : Takes (kind d) text v)
    (hnull : text.head? ≠ some 'n') : Takes (Kind.optional kind d) text v where
  opens := h.opens
  read_eq {rest} hrest := by
    have hread := h.read_eq hrest
    obtain ⟨c, more, rfl, hc⟩ := h.opens
    have hne : c ≠ 'n' := by
      rintro rfl
      exact hnull rfl
    rw [List.map_cons, List.cons_append] at hread ⊢
    rw [Kind.optional, skipBlanks_of_opensValue hc]
    simpa [hne] using hread

theorem takes_items {items : List Json} (hwhole : (Json.arr items).isWhole = true)
    (hdepth : (Json.arr items).depth ≤ d) :
    Takes (Kind.list Kind.any d) (render (.arr items)) (.arr items) := by
  obtain ⟨d, rfl⟩ := Nat.exists_eq_add_one.2 (Nat.lt_of_lt_of_le (Nat.succ_pos _) hdepth)
  refine takes_list fun v hv => takes_readValue (areWhole_iff.1 hwhole v hv) ?_
  exact depthItems_le_iff.1 (Nat.le_of_succ_le_succ hdepth) v hv

theorem takes_object {o : Object} (hwhole : (Json.obj o).isWhole = true)
    (hdepth : (Json.obj o).depth ≤ d) :
    Takes (Kind.table Kind.any d) (render (.obj o)) (.obj o) := by
  obtain ⟨d, rfl⟩ := Nat.exists_eq_add_one.2 (Nat.lt_of_lt_of_le (Nat.succ_pos _) hdepth)
  refine takes_table fun member hmember => takes_readValue ?_ ?_
  · exact Members.isWhole_iff.1 hwhole member hmember
  · exact Members.depth_le_iff.1 (Nat.le_of_succ_le_succ hdepth) member hmember

end

/-! ## Complete records -/

section

variable {fields : List Field} {gathered : List (String × Json)}

theorem complete_cons (field : Field) (fields : List Field) (gathered : List (String × Json)) :
    complete (field :: fields) gathered =
      (complete fields gathered).bind fun o =>
        ((gathered.lookup field.name).or field.default).map (o.insert field.name) := by
  rw [complete, List.foldr_cons, ← complete]
  cases complete fields gathered with
  | none => rfl
  | some o => cases (gathered.lookup field.name).or field.default <;> rfl

/-- A complete record has under the name of each field what was gathered, or else its
default. -/
theorem get?_complete {o : Object} (h : complete fields gathered = some o) (key : String) :
    o.get? key = (fields.find? (·.name == key)).bind fun field =>
      (gathered.lookup field.name).or field.default := by
  induction fields generalizing o with
  | nil =>
      obtain rfl := Option.some.inj h
      rfl
  | cons field fields ih =>
      rw [complete_cons] at h
      obtain ⟨o', ho', hinsert⟩ := Option.bind_eq_some_iff.1 h
      obtain ⟨v, hv, rfl⟩ := Option.map_eq_some_iff.1 hinsert
      rw [Members.get?_insert, List.find?_cons]
      by_cases hkey : key = field.name
      · simp [hkey, hv]
      · rw [if_neg hkey, beq_false_of_ne (Ne.symm hkey), ih ho']

theorem exists_complete (h : ∀ field ∈ fields,
      ((gathered.lookup field.name).or field.default).isSome = true) :
    ∃ o, complete fields gathered = some o := by
  induction fields with
  | nil => exact ⟨_, rfl⟩
  | cons field fields ih =>
      obtain ⟨o, ho⟩ := ih fun other hother => h other (List.mem_cons_of_mem field hother)
      obtain ⟨v, hv⟩ := Option.isSome_iff_exists.1 (h field List.mem_cons_self)
      exact ⟨o.insert field.name v, by rw [complete_cons, ho, Option.bind_some, hv]; rfl⟩

end

/-! ## Records -/

section

variable {fields : List Field} {depth : Nat} {entries : List (String × Document)}

theorem renderFields_eq (entries : List (String × Document)) :
    Document.renderFields entries =
      writtenEntries (entries.map fun entry => (entry.1, entry.2.render)) := by
  induction entries with
  | nil => rfl
  | cons entry entries ih => rw [Document.renderFields, ih]; rfl

theorem fieldValues_eq_map (entries : List (String × Document)) :
    Document.fieldValues entries = entries.map fun entry => (entry.1, entry.2.toJson) := by
  induction entries with
  | nil => rfl
  | cons entry entries ih => rw [Document.fieldValues, ih]; rfl

/-- Fields with names of their own are gathered one after the other. -/
theorem gathers_readField
    (hkinds : ∀ entry ∈ entries, ∃ field, fields.find? (·.name == entry.1) = some field ∧
      Takes (field.kind depth) entry.2.render entry.2.toJson)
    (hnames : (entries.map Prod.fst).Nodup) {gathered : List (String × Json)}
    (hfresh : ∀ entry ∈ entries, gathered.lookup entry.1 = none) :
    Gathers (readField fields depth) gathered
      (entries.map fun entry => (entry.1, entry.2.render))
      ((Document.fieldValues entries).reverse ++ gathered) := by
  induction entries generalizing gathered with
  | nil => exact .nil gathered
  | cons entry entries ih =>
      obtain ⟨field, hfield, htakes⟩ := hkinds entry List.mem_cons_self
      obtain ⟨hnew, hnames⟩ := List.nodup_cons.1 hnames
      -- A field that comes twice is refused, so the later names must still be fresh.
      have hstill : ∀ other ∈ entries,
          ((entry.1, entry.2.toJson) :: gathered).lookup other.1 = none := by
        intro other hother
        have hne : other.1 ≠ entry.1 := fun heq => hnew (heq ▸ List.mem_map_of_mem hother)
        rw [List.lookup_cons, beq_false_of_ne hne]
        exact hfresh other (List.mem_cons_of_mem entry hother)
      have hothers := ih (fun other hother => hkinds other (List.mem_cons_of_mem entry hother))
        hnames hstill
      rw [Document.fieldValues, List.reverse_cons, List.append_assoc]
      refine .cons (fun {rest} hrest => ?_) hothers
      simp only [readField, hfield, hfresh entry List.mem_cons_self, readColon_colon, bind,
        Except.bind, htakes.read_eq hrest]
      rfl

/-- A record whose fields can be taken off is taken off. -/
theorem takes_record
    (hkinds : ∀ entry ∈ entries, ∃ field, fields.find? (·.name == entry.1) = some field ∧
      Takes (field.kind depth) entry.2.render entry.2.toJson)
    (hnames : (entries.map Prod.fst).Nodup) {o : Object}
    (ho : complete fields (Document.fieldValues entries).reverse = some o) :
    Takes (Kind.record fields (depth + 1)) (Document.record entries).render (.obj o) where
  opens := ⟨'{', _, rfl, rfl⟩
  read_eq {rest} _ := by
    have hfresh : ∀ entry ∈ entries, ([] : List (String × Json)).lookup entry.1 = none :=
      fun _ _ => rfl
    have hgathers := gathers_readField hkinds hnames hfresh
    have hread := readMembers_written hgathers rest
    rw [List.append_nil] at hread
    rw [Document.render, renderFields_eq, List.cons_append, List.map_cons, List.cons_append,
      List.map_append, List.append_assoc, Kind.record, skipBlanks_of_opensValue (c := '{') rfl]
    simp [bind, Except.bind, hread, ho]

end

end Json

end ClusterEvents
