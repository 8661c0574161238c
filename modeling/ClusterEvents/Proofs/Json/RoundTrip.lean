import ClusterEvents.Proofs.Json.Scalars
import ClusterEvents.Proofs.Json.Places
import ClusterEvents.Proofs.Text.ByteOrder

/-!
# Reading values back

`Takes read text v` says that a reader, given a text that goes on with a closing mark, takes
off just that text and returns `v`. Lists and objects are taken off when their elements and
members are. So a value that holds no doubles, and nests no deeper than a reader goes, is
read back from what it is written as: `takes_readValue`. Objects are gathered member by
member in the order of their keys, and the members of an object put into an empty one are
that object again (`foldl_insert_toList`).
-/

namespace ClusterEvents

/-! ## Values without doubles, and how deep they nest -/

mutual

/-- How many levels of lists and objects a value nests. -/
def Json.depth : Json → Nat
  | .arr items => Json.depthItems items + 1
  | .obj members => members.depth + 1
  | _ => 0

/-- How many levels the elements of a list nest. -/
def Json.depthItems : List Json → Nat
  | [] => 0
  | v :: rest => max v.depth (Json.depthItems rest)

/-- How many levels the values of an object nest. -/
def Members.depth : {b : Option String} → Members b → Nat
  | _, .nil => 0
  | _, .cons _ _ value rest => max value.depth rest.depth

end

mutual

/-- Whether all numbers in a value are integers of sixty-four bits. -/
def Json.isWhole : Json → Bool
  | .int n => decide (Json.FitsWord n)
  | .double _ => false
  | .arr items => Json.areWhole items
  | .obj members => members.isWhole
  | _ => true

/-- Whether all numbers in a list are integers of sixty-four bits. -/
def Json.areWhole : List Json → Bool
  | [] => true
  | v :: rest => v.isWhole && Json.areWhole rest

/-- Whether all numbers in an object are integers of sixty-four bits. -/
def Members.isWhole : {b : Option String} → Members b → Bool
  | _, .nil => true
  | _, .cons _ _ value rest => value.isWhole && rest.isWhole

end

namespace Json

theorem depthItems_le_iff {items : List Json} {d : Nat} :
    depthItems items ≤ d ↔ ∀ v ∈ items, v.depth ≤ d := by
  induction items with
  | nil => simp [depthItems]
  | cons v rest ih => rw [depthItems, Nat.max_le, ih, List.forall_mem_cons]

theorem areWhole_iff {items : List Json} :
    areWhole items = true ↔ ∀ v ∈ items, v.isWhole = true := by
  induction items with
  | nil => simp [areWhole]
  | cons v rest ih => rw [areWhole, Bool.and_eq_true, ih, List.forall_mem_cons]

theorem renderItems_eq_map (items : List Json) : renderItems items = items.map render := by
  induction items with
  | nil => rfl
  | cons v rest ih => rw [renderItems, ih, List.map_cons]

end Json

namespace Members

variable {b : Option String}

theorem depth_le_iff {m : Members b} {d : Nat} :
    m.depth ≤ d ↔ ∀ member ∈ m.toList, member.2.depth ≤ d := by
  induction m using induct with
  | nil => simp [depth, toList]
  | cons b key above value rest ih =>
      rw [depth, Nat.max_le, ih, toList, List.forall_mem_cons]

theorem mem_toList_iff {m : Members b} {key : String} {v : Json} :
    (key, v) ∈ m.toList ↔ m.get? key = some v := by
  induction m using induct with
  | nil => simp [toList]
  | cons b k above w rest ih =>
      rw [toList, List.mem_cons, ih, get?_cons]
      by_cases hkey : key = k
      · have hnone : rest.get? key = none :=
          get?_eq_none_of_not_above rest (hkey ▸ String.lt_irrefl key)
        simp [hkey, hkey ▸ hnone, eq_comm]
      · simp [hkey]

theorem depth_le_iff_get? {m : Members b} {d : Nat} :
    m.depth ≤ d ↔ ∀ key v, m.get? key = some v → v.depth ≤ d := by
  rw [depth_le_iff]
  constructor
  · intro h key v hv
    exact h (key, v) (mem_toList_iff.2 hv)
  · rintro h ⟨key, v⟩ hmember
    exact h key v (mem_toList_iff.1 hmember)

theorem isWhole_iff {m : Members b} :
    m.isWhole = true ↔ ∀ member ∈ m.toList, member.2.isWhole = true := by
  induction m using induct with
  | nil => simp [isWhole, toList]
  | cons b key above value rest ih =>
      rw [isWhole, Bool.and_eq_true, ih, toList, List.forall_mem_cons]

theorem render_eq_map (m : Members b) :
    m.render = m.toList.map fun member => Json.written member.1 member.2.render := by
  induction m using induct with
  | nil => rfl
  | cons b key above value rest ih => rw [render, ih, toList, List.map_cons]

theorem get?_foldl_insert (m : Members b) (o : Object) (key : String) :
    (m.toList.foldl (fun o member => o.insert member.1 member.2) o).get? key =
      (m.get? key).or (o.get? key) := by
  induction m using induct generalizing o with
  | nil => rfl
  | cons b k above value rest ih =>
      rw [toList, List.foldl_cons, ih, get?_insert, get?_cons]
      by_cases hkey : key = k
      · have hnone : rest.get? key = none :=
          get?_eq_none_of_not_above rest (hkey ▸ String.lt_irrefl key)
        simp [hkey, hkey ▸ hnone]
      · simp [hkey]

/-- The members of an object, put one by one into an empty one, are the object. -/
theorem foldl_insert_toList (o : Object) :
    o.toList.foldl (fun o member => o.insert member.1 member.2) Object.empty = o := by
  refine ext _ _ fun key => ?_
  rw [get?_foldl_insert]
  exact Option.or_none

end Members

namespace Json

/-! ## Readers that take a text off -/

/-- The character begins a value: it is no blank and no mark between or behind values. -/
def opensValue (c : Char) : Bool :=
  !isBlank (some c) && c != ',' && c != ']' && c != '}'

/-- The reader takes the text off whatever closes it, and returns the value. -/
structure Takes {α : Type} (read : Glyphs → Except ReadError (α × Glyphs)) (text : List Char)
    (v : α) : Prop where
  opens : ∃ c more, text = c :: more ∧ opensValue c = true
  read_eq {rest : Glyphs} : Closes rest → read (text.map some ++ rest) = .ok (v, rest)

theorem skipBlanks_of_opensValue {c : Char} (h : opensValue c = true) (rest : Glyphs) :
    skipBlanks (some c :: rest) = some c :: rest := by
  simp only [opensValue, Bool.and_eq_true, Bool.not_eq_true'] at h
  rw [skipBlanks, List.dropWhile_cons, h.1.1.1]
  rfl

theorem skipBlanks_of_comma (rest : Glyphs) :
    skipBlanks (some ',' :: rest) = some ',' :: rest := rfl

/-- A text that is taken off is read as a whole. -/
theorem Takes.readText_eq {α : Type} {read : Glyphs → Except ReadError (α × Glyphs)}
    {text : List Char} {v : α} (h : Takes read text v) :
    readText read (text.map some) = .ok v := by
  have hread := h.read_eq closes_nil
  rw [List.append_nil] at hread
  rw [readText, hread]
  rfl

/-- Written parts, each behind a comma. -/
def behindCommas (parts : List (List Char)) : List Char :=
  parts.flatMap fun part => ',' :: part

theorem behindCommas_cons (part : List Char) (parts : List (List Char)) (rest : Glyphs) :
    (behindCommas (part :: parts)).map some ++ rest =
      some ',' :: (part.map some ++ ((behindCommas parts).map some ++ rest)) := by
  simp [behindCommas]

theorem commaSeparated_cons (part : List Char) (parts : List (List Char)) :
    commaSeparated (part :: parts) = part ++ behindCommas parts := by
  induction parts generalizing part with
  | nil => simp [commaSeparated, behindCommas]
  | cons next parts ih =>
      rw [commaSeparated, ih]
      · rfl
      · exact List.cons_ne_nil next parts

/-! ## Lists -/

section

variable {α : Type} {element : Glyphs → Except ReadError (α × Glyphs)} {write : α → List Char}

theorem closes_behindCommas (parts : List (List Char)) {rest : Glyphs} (hrest : Closes rest) :
    Closes ((behindCommas parts).map some ++ rest) := by
  cases parts with
  | nil => exact hrest
  | cons part parts => exact closes_comma _

theorem readMoreElements_written {items : List α} (h : ∀ v ∈ items, Takes element (write v) v)
    (rest : Glyphs) {fuel : Nat}
    (hfuel : ((behindCommas (items.map write)).map some ++ some ']' :: rest).length ≤ fuel) :
    readMoreElements element fuel
        ((behindCommas (items.map write)).map some ++ some ']' :: rest) =
      .ok (items, rest) := by
  induction items generalizing fuel with
  | nil =>
      obtain ⟨fuel, rfl⟩ := Nat.exists_eq_add_one.2 (Nat.lt_of_lt_of_le (Nat.succ_pos _) hfuel)
      rfl
  | cons v items ih =>
      rw [List.map_cons, behindCommas_cons] at hfuel ⊢
      obtain ⟨fuel, rfl⟩ := Nat.exists_eq_add_one.2 (Nat.lt_of_lt_of_le (Nat.succ_pos _) hfuel)
      have hread := (h v List.mem_cons_self).read_eq
        (closes_behindCommas (items.map write) (closes_bracket rest))
      -- What is left behind an element is shorter, so fuel for its length is left as well.
      have hrest : ((behindCommas (items.map write)).map some ++
          some ']' :: rest).length ≤ fuel := by
        rw [List.length_cons, List.length_append] at hfuel
        omega
      have hmore := ih (fun w hw => h w (List.mem_cons_of_mem v hw)) hrest
      rw [readMoreElements, skipBlanks_of_comma]
      simp only [bind, Except.bind, hread, hmore]

/-- A list whose first mark opens a value has a first element. -/
theorem readElements_of_opensValue {c : Char} (hc : opensValue c = true) (more : Glyphs) :
    readElements element (some c :: more) = (do
      let (v, rest) ← element (some c :: more)
      let (vs, rest) ← readMoreElements element rest.length rest
      .ok (v :: vs, rest)) := by
  have hbracket : c ≠ ']' := by
    rintro rfl
    cases hc
  rw [readElements, skipBlanks_of_opensValue hc]
  simp [hbracket]

theorem readElements_written {items : List α} (h : ∀ v ∈ items, Takes element (write v) v)
    (rest : Glyphs) :
    readElements element
        ((commaSeparated (items.map write)).map some ++ some ']' :: rest) =
      .ok (items, rest) := by
  cases items with
  | nil => rfl
  | cons v items =>
      have hv := h v List.mem_cons_self
      have hread := hv.read_eq (closes_behindCommas (items.map write) (closes_bracket rest))
      have hmore := readMoreElements_written (fun w hw => h w (List.mem_cons_of_mem v hw)) rest
        (Nat.le_refl _)
      obtain ⟨c, more, hc, hopens⟩ := hv.opens
      rw [List.map_cons, commaSeparated_cons, List.map_append, List.append_assoc]
      rw [hc, List.map_cons, List.cons_append] at hread ⊢
      rw [readElements_of_opensValue hopens, hread]
      simp only [bind, Except.bind, hmore]

end

/-! ## Objects -/

section

variable {σ : Type} {member : String → σ → Glyphs → Except ReadError (σ × Glyphs)}

/-- What has been gathered grows by one entry after the other: behind each key, `member`
takes the text of its value off. -/
inductive Gathers (member : String → σ → Glyphs → Except ReadError (σ × Glyphs)) :
    σ → List (String × List Char) → σ → Prop
  | nil (gathered : σ) : Gathers member gathered [] gathered
  | cons {gathered gathered' gathered'' : σ} {key : String} {text : List Char}
      {entries : List (String × List Char)}
      (first : ∀ {rest : Glyphs}, Closes rest →
        member key gathered (some ':' :: (text.map some ++ rest)) = .ok (gathered', rest))
      (others : Gathers member gathered' entries gathered'') :
      Gathers member gathered ((key, text) :: entries) gathered''

/-- Entries as they are written. -/
def writtenEntries (entries : List (String × List Char)) : List (List Char) :=
  entries.map fun entry => written entry.1 entry.2

theorem writtenEntries_cons (key : String) (text : List Char)
    (entries : List (String × List Char)) :
    writtenEntries ((key, text) :: entries) = written key text :: writtenEntries entries := rfl

theorem map_some_written (key : String) (text : List Char) (rest : Glyphs) :
    (written key text).map some ++ rest =
      some '"' :: ((key.toList.flatMap escape).map some ++
        some '"' :: some ':' :: (text.map some ++ rest)) := by
  simp [written, quoted]

theorem readKey_written (key : String) (rest : Glyphs) :
    readKey (some '"' :: ((key.toList.flatMap escape).map some ++ some '"' :: rest)) =
      .ok (key, rest) :=
  readString_written key rest

theorem readMoreMembers_written {entries : List (String × List Char)} {gathered gathered' : σ}
    (h : Gathers member gathered entries gathered') (rest : Glyphs) {fuel : Nat}
    (hfuel : ((behindCommas (writtenEntries entries)).map some ++ some '}' :: rest).length ≤ fuel) :
    readMoreMembers member fuel gathered
        ((behindCommas (writtenEntries entries)).map some ++ some '}' :: rest) =
      .ok (gathered', rest) := by
  induction h generalizing fuel with
  | nil gathered =>
      obtain ⟨fuel, rfl⟩ := Nat.exists_eq_add_one.2 (Nat.lt_of_lt_of_le (Nat.succ_pos _) hfuel)
      rfl
  | @cons _ _ _ key text entries first _ ih =>
      rw [writtenEntries_cons, behindCommas_cons] at hfuel ⊢
      obtain ⟨fuel, rfl⟩ := Nat.exists_eq_add_one.2 (Nat.lt_of_lt_of_le (Nat.succ_pos _) hfuel)
      have hread := first (closes_behindCommas (writtenEntries entries) (closes_brace rest))
      have hrest : ((behindCommas (writtenEntries entries)).map some ++
          some '}' :: rest).length ≤ fuel := by
        rw [List.length_cons, List.length_append] at hfuel
        omega
      have hmore := ih hrest
      rw [readMoreMembers, skipBlanks_of_comma, map_some_written]
      simp only [bind, Except.bind, readKey_written, hread, hmore]

/-- An object whose first mark is a quote has a first member. -/
theorem readMembers_of_quote (gathered : σ) (more : Glyphs) :
    readMembers member gathered (some '"' :: more) = (do
      let (key, rest) ← readKey (some '"' :: more)
      let (gathered, rest) ← member key gathered rest
      readMoreMembers member rest.length gathered rest) := rfl

theorem readMembers_written {entries : List (String × List Char)} {gathered gathered' : σ}
    (h : Gathers member gathered entries gathered') (rest : Glyphs) :
    readMembers member gathered
        ((commaSeparated (writtenEntries entries)).map some ++ some '}' :: rest) =
      .ok (gathered', rest) := by
  cases h with
  | nil => rfl
  | @cons _ _ _ key text entries first others =>
      have hread := first (closes_behindCommas (writtenEntries entries) (closes_brace rest))
      have hmore := readMoreMembers_written others rest (Nat.le_refl _)
      rw [writtenEntries_cons, commaSeparated_cons, List.map_append, List.append_assoc,
        map_some_written, readMembers_of_quote]
      simp only [bind, Except.bind, readKey_written, hread, hmore]

end

theorem readColon_colon (rest : Glyphs) : readColon (some ':' :: rest) = .ok rest := rfl

/-- The entries of a free-form object are gathered in it one after the other. -/
theorem gathers_readMember {value : Glyphs → Except ReadError (Json × Glyphs)}
    {members : List (String × Json)}
    (h : ∀ member ∈ members, Takes value member.2.render member.2) (o : Object) :
    Gathers (readMember value) o (members.map fun member => (member.1, member.2.render))
      (members.foldl (fun o member => o.insert member.1 member.2) o) := by
  induction members generalizing o with
  | nil => exact .nil o
  | cons member members ih =>
      refine .cons ?_ (ih (fun other hother => h other (List.mem_cons_of_mem member hother)) _)
      intro rest hrest
      have hread := (h member List.mem_cons_self).read_eq hrest
      simp only [readMember, readColon_colon, bind, Except.bind, hread]

theorem readMembers_render {value : Glyphs → Except ReadError (Json × Glyphs)} (o : Object)
    (h : ∀ member ∈ o.toList, Takes value member.2.render member.2) (rest : Glyphs) :
    readMembers (readMember value) .empty
        ((commaSeparated o.render).map some ++ some '}' :: rest) =
      .ok (o, rest) := by
  have hread := readMembers_written (gathers_readMember h .empty) rest
  rw [Members.foldl_insert_toList, writtenEntries, List.map_map] at hread
  rw [Members.render_eq_map]
  exact hread

/-! ## Values -/

section

variable {list : Glyphs → Except ReadError (List Json × Glyphs)}
  {object : Glyphs → Except ReadError (Object × Glyphs)}

theorem takes_str (s : String) : Takes (readWith list object) (quoted s) (.str s) where
  opens := ⟨'"', _, rfl, rfl⟩
  read_eq {rest} _ := by
    rw [quoted, List.cons_append, List.map_cons, List.cons_append, readWith,
      skipBlanks_of_opensValue (c := '"') rfl]
    simp [bind, Except.bind, readString_written]

theorem ne_of_startsNumber {c d : Char} (h : startsNumber (some c) = true)
    (hd : startsNumber (some d) = false) : c ≠ d := by
  rintro rfl
  rw [hd] at h
  cases h

theorem opensValue_of_startsNumber {c : Char} (h : startsNumber (some c) = true) :
    opensValue c = true := by
  have hne {d : Char} (hd : startsNumber (some d) = false) : c ≠ d := ne_of_startsNumber h hd
  simp [opensValue, isBlank, hne (d := ' ') rfl, hne (d := '\n') rfl, hne (d := '\t') rfl,
    hne (d := '\r') rfl, hne (d := ',') rfl, hne (d := ']') rfl, hne (d := '}') rfl]

theorem readWith_of_startsNumber {c : Char} (h : startsNumber (some c) = true) (more : Glyphs) :
    readWith list object (some c :: more) = readNumber (some c :: more) := by
  have hne {d : Char} (hd : startsNumber (some d) = false) : c ≠ d := ne_of_startsNumber h hd
  rw [readWith, skipBlanks_of_opensValue (opensValue_of_startsNumber h)]
  simp [hne (d := 'n') rfl, hne (d := 't') rfl, hne (d := 'f') rfl, hne (d := '"') rfl,
    hne (d := '[') rfl, hne (d := '{') rfl, h]

theorem takes_int {n : Int} (h : FitsWord n) :
    Takes (readWith list object) (integer n) (.int n) := by
  obtain ⟨c, more, htext, hc⟩ := exists_integer_eq_cons n
  constructor
  · exact ⟨c, more, htext, opensValue_of_startsNumber hc⟩
  · intro rest hrest
    have hread := readNumber_integer h hrest
    rw [htext, List.map_cons, List.cons_append] at hread ⊢
    rw [readWith_of_startsNumber hc, hread]

theorem takes_scalar {v : Json} (hscalar : v.isContainer = false) (hwhole : v.isWhole = true) :
    Takes (readWith list object) v.render v := by
  cases v with
  | null => exact ⟨⟨'n', _, rfl, rfl⟩, fun _ => rfl⟩
  | bool b => cases b <;> exact ⟨⟨_, _, rfl, rfl⟩, fun _ => rfl⟩
  | int n => exact takes_int (of_decide_eq_true hwhole)
  | double d => cases hwhole
  | str s => exact takes_str s
  | arr items => cases hscalar
  | obj o => cases hscalar

end

theorem map_some_render_arr (items : List Json) (rest : Glyphs) :
    (render (.arr items)).map some ++ rest =
      some '[' :: ((commaSeparated (items.map render)).map some ++ some ']' :: rest) := by
  simp [render, renderItems_eq_map]

theorem map_some_render_obj (o : Object) (rest : Glyphs) :
    (render (.obj o)).map some ++ rest =
      some '{' :: ((commaSeparated o.render).map some ++ some '}' :: rest) := by
  simp [render]

/-- What holds no doubles, and nests no deeper than the reader goes, is read back. -/
theorem takes_readValue {d : Nat} {v : Json} (hwhole : v.isWhole = true) (hdepth : v.depth ≤ d) :
    Takes (readValue d) v.render v := by
  -- On the levels left: a list or an object takes one, and what it holds is read in the rest.
  induction d generalizing v with
  | zero =>
      cases v with
      | arr items => exact absurd hdepth (Nat.not_succ_le_zero _)
      | obj o => exact absurd hdepth (Nat.not_succ_le_zero _)
      | _ => exact takes_scalar rfl hwhole
  | succ d ih =>
      cases v with
      | arr items =>
          have hitems : ∀ v ∈ items, Takes (readValue d) v.render v := fun v hv =>
            ih (areWhole_iff.1 hwhole v hv)
              (depthItems_le_iff.1 (Nat.le_of_succ_le_succ hdepth) v hv)
          refine ⟨⟨'[', _, rfl, rfl⟩, fun {rest} _ => ?_⟩
          rw [map_some_render_arr, readValue, readWith, skipBlanks_of_opensValue (c := '[') rfl]
          simp only [bind, Except.bind, readElements_written hitems rest]
      | obj o =>
          have hmembers : ∀ member ∈ o.toList, Takes (readValue d) member.2.render member.2 :=
            fun member hmember => ih (Members.isWhole_iff.1 hwhole member hmember)
              (Members.depth_le_iff.1 (Nat.le_of_succ_le_succ hdepth) member hmember)
          refine ⟨⟨'{', _, rfl, rfl⟩, fun {rest} _ => ?_⟩
          rw [map_some_render_obj, readValue, readWith, skipBlanks_of_opensValue (c := '{') rfl]
          simp only [bind, Except.bind, readMembers_render o hmembers rest]
      | _ => exact takes_scalar rfl hwhole

theorem ofText_print {v : Json} (hwhole : v.isWhole = true) (hdepth : v.depth ≤ depthLimit) :
    ofText v.print = .ok v := by
  rw [ofText, print, Glyphs.ofString, String.toList_ofList]
  exact (takes_readValue hwhole hdepth).readText_eq

end Json

end ClusterEvents
