import ClusterEvents.Proofs.Json.Records
import ClusterEvents.Proofs.Json.Unpack

/-!
# How deep a read value nests

Whatever a reader takes off a text nests no deeper than the reader goes: `yields_readValue`
for free-form values, `yields_record` for what records are made of. Each reader is looked at
by itself; what holds of all that the reader of an element yields holds of all elements of
what the reader of the list yields.
-/

namespace ClusterEvents

theorem Members.depth_insert_le {o : Object} {d : Nat} (ho : o.depth ≤ d) {v : Json}
    (hv : v.depth ≤ d) (key : String) : (o.insert key v).depth ≤ d := by
  refine depth_le_iff_get?.2 fun other w hw => ?_
  rw [get?_insert] at hw
  split at hw
  · cases hw
    exact hv
  · exact depth_le_iff_get?.1 ho other w hw

namespace Json

theorem depth_of_isContainer_eq_false {v : Json} (h : v.isContainer = false) : v.depth = 0 := by
  cases v with
  | arr items => cases h
  | obj o => cases h
  | _ => rfl

theorem bind_eq_ok {α β : Type} {x : Except ReadError α} {f : α → Except ReadError β} {r : β} :
    x >>= f = .ok r ↔ ∃ a, x = .ok a ∧ f a = .ok r := by
  cases x with
  | error e =>
      constructor
      · intro h
        cases h
      · rintro ⟨a, ha, -⟩
        cases ha
  | ok a =>
      constructor
      · intro h
        exact ⟨a, rfl, h⟩
      · rintro ⟨b, hb, h⟩
        cases hb
        exact h

/-- All that the reader takes off a text has the property. -/
def Yields {α : Type} (read : Glyphs → Except ReadError (α × Glyphs)) (P : α → Prop) : Prop :=
  ∀ ⦃text rest : Glyphs⦄ ⦃v : α⦄, read text = .ok (v, rest) → P v

/-! ## Elements and members -/

section

variable {α σ : Type} {element : Glyphs → Except ReadError (α × Glyphs)} {P : α → Prop}
  {member : String → σ → Glyphs → Except ReadError (σ × Glyphs)} {I : σ → Prop}

theorem yields_readMoreElements (h : Yields element P) (fuel : Nat) :
    Yields (readMoreElements element fuel) fun items => ∀ v ∈ items, P v := by
  induction fuel with
  | zero =>
      intro text rest items hread
      cases hread
  | succ fuel ih =>
      intro text rest items hread
      rw [readMoreElements] at hread
      split at hread
      case h_2 =>
        cases hread
        exact List.forall_mem_nil _
      case h_3 =>
        obtain ⟨⟨v, rest'⟩, hv, hread⟩ := bind_eq_ok.1 hread
        obtain ⟨⟨vs, rest''⟩, hvs, hread⟩ := bind_eq_ok.1 hread
        cases hread
        exact List.forall_mem_cons.2 ⟨h hv, ih hvs⟩
      all_goals cases hread

theorem yields_readElements (h : Yields element P) :
    Yields (readElements element) fun items => ∀ v ∈ items, P v := by
  intro text rest items hread
  rw [readElements] at hread
  split at hread
  case h_1 => cases hread
  case h_2 =>
    cases hread
    exact List.forall_mem_nil _
  case h_3 =>
    obtain ⟨⟨v, rest'⟩, hv, hread⟩ := bind_eq_ok.1 hread
    obtain ⟨⟨vs, rest''⟩, hvs, hread⟩ := bind_eq_ok.1 hread
    cases hread
    exact List.forall_mem_cons.2 ⟨h hv, yields_readMoreElements h _ hvs⟩

theorem yields_readMoreMembers
    (h : ∀ {key gathered}, I gathered → Yields (member key gathered) I) (fuel : Nat)
    {gathered : σ} (hgathered : I gathered) :
    Yields (readMoreMembers member fuel gathered) I := by
  induction fuel generalizing gathered with
  | zero =>
      intro text rest result hread
      cases hread
  | succ fuel ih =>
      intro text rest result hread
      rw [readMoreMembers] at hread
      split at hread
      case h_2 =>
        cases hread
        exact hgathered
      case h_3 =>
        obtain ⟨⟨key, rest'⟩, -, hread⟩ := bind_eq_ok.1 hread
        obtain ⟨⟨gathered', rest''⟩, hmember, hread⟩ := bind_eq_ok.1 hread
        exact ih (h hgathered hmember) hread
      all_goals cases hread

theorem yields_readMembers (h : ∀ {key gathered}, I gathered → Yields (member key gathered) I)
    {gathered : σ} (hgathered : I gathered) : Yields (readMembers member gathered) I := by
  intro text rest result hread
  rw [readMembers] at hread
  split at hread
  case h_1 => cases hread
  case h_2 =>
    cases hread
    exact hgathered
  case h_3 =>
    obtain ⟨⟨key, rest'⟩, -, hread⟩ := bind_eq_ok.1 hread
    obtain ⟨⟨gathered', rest''⟩, hmember, hread⟩ := bind_eq_ok.1 hread
    exact yields_readMoreMembers h _ (h hgathered hmember) hread

end

section

variable {value : Glyphs → Except ReadError (Json × Glyphs)} {d : Nat}

theorem yields_readMember (h : Yields value (·.depth ≤ d)) {key : String} {o : Object}
    (ho : o.depth ≤ d) : Yields (readMember value key o) (·.depth ≤ d) := by
  intro text rest o' hread
  obtain ⟨rest', -, hread⟩ := bind_eq_ok.1 hread
  obtain ⟨⟨v, rest''⟩, hv, hread⟩ := bind_eq_ok.1 hread
  cases hread
  exact Members.depth_insert_le ho (h hv) key

theorem yields_readElements_depth (h : Yields value (·.depth ≤ d)) :
    Yields (readElements value) fun items => (Json.arr items).depth ≤ d + 1 := by
  intro text rest items hread
  exact Nat.succ_le_succ (depthItems_le_iff.2 (yields_readElements h hread))

theorem yields_readMembers_depth (h : Yields value (·.depth ≤ d)) :
    Yields (readMembers (readMember value) .empty) fun o => (Json.obj o).depth ≤ d + 1 := by
  have hempty : Object.empty.depth ≤ d := Nat.zero_le d
  intro text rest o hread
  exact Nat.succ_le_succ (yields_readMembers (yields_readMember h) hempty hread)

/-! ## Values -/

theorem yields_readWith {list : Glyphs → Except ReadError (List Json × Glyphs)}
    {object : Glyphs → Except ReadError (Object × Glyphs)}
    (hlist : Yields list fun items => (Json.arr items).depth ≤ d)
    (hobject : Yields object fun o => (Json.obj o).depth ≤ d) :
    Yields (readWith list object) (·.depth ≤ d) := by
  intro text rest v hread
  rw [readWith] at hread
  split at hread
  case h_1 => cases hread
  case h_6 =>
    obtain ⟨⟨items, rest'⟩, hitems, hread⟩ := bind_eq_ok.1 hread
    cases hread
    exact hlist hitems
  case h_7 =>
    obtain ⟨⟨o, rest'⟩, ho, hread⟩ := bind_eq_ok.1 hread
    cases hread
    exact hobject ho
  case h_8 =>
    split at hread
    · rw [depth_of_isContainer_eq_false (isContainer_of_readNumber hread)]
      exact Nat.zero_le d
    · cases hread
  all_goals
    obtain ⟨read, -, hread⟩ := bind_eq_ok.1 hread
    cases hread
    exact Nat.zero_le d

theorem yields_readValue (d : Nat) : Yields (readValue d) (·.depth ≤ d) := by
  induction d with
  | zero =>
      refine yields_readWith ?_ ?_
      · intro text rest items hread
        cases hread
      · intro text rest o hread
        cases hread
  | succ d ih => exact yields_readWith (yields_readElements_depth ih) (yields_readMembers_depth ih)

end

/-! ## Values of a kind -/

section

variable {kind : KindReader} {d : Nat}

theorem yields_text (d : Nat) : Yields (Kind.text d) (·.depth ≤ d) := by
  intro text rest v hread
  rw [Kind.text] at hread
  split at hread
  · obtain ⟨read, -, hread⟩ := bind_eq_ok.1 hread
    cases hread
    exact Nat.zero_le d
  · cases hread

theorem yields_truth (d : Nat) : Yields (Kind.truth d) (·.depth ≤ d) := by
  intro text rest v hread
  rw [Kind.truth] at hread
  split at hread
  case h_3 => cases hread
  all_goals
    obtain ⟨read, -, hread⟩ := bind_eq_ok.1 hread
    cases hread
    exact Nat.zero_le d

theorem yields_numberWith {accept : Json → Option Json}
    (h : ∀ v w, accept v = some w → w.isContainer = false) (d : Nat) :
    Yields (Kind.numberWith accept d) (·.depth ≤ d) := by
  intro text rest v hread
  rw [Kind.numberWith] at hread
  split at hread
  · cases hread
  · split at hread
    · obtain ⟨⟨n, rest'⟩, -, hread⟩ := bind_eq_ok.1 hread
      dsimp only at hread
      split at hread
      · rename_i hw
        cases hread
        rw [depth_of_isContainer_eq_false (h n _ hw)]
        exact Nat.zero_le d
      · cases hread
    · cases hread

theorem yields_natural (bound d : Nat) : Yields (Kind.natural bound d) (·.depth ≤ d) := by
  refine yields_numberWith (fun v w hw => ?_) d
  split at hw
  · split at hw
    · cases hw
      rfl
    · cases hw
  · cases hw

theorem yields_double (d : Nat) : Yields (Kind.double d) (·.depth ≤ d) := by
  refine yields_numberWith (fun v w hw => ?_) d
  split at hw
  case h_3 => cases hw
  all_goals
    cases hw
    rfl

theorem yields_optional (h : Yields (kind d) (·.depth ≤ d)) :
    Yields (Kind.optional kind d) (·.depth ≤ d) := by
  intro text rest v hread
  rw [Kind.optional] at hread
  split at hread
  · obtain ⟨read, -, hread⟩ := bind_eq_ok.1 hread
    cases hread
    exact Nat.zero_le d
  · exact h hread

theorem yields_list (h : ∀ d, Yields (kind d) (·.depth ≤ d)) (d : Nat) :
    Yields (Kind.list kind d) (·.depth ≤ d) := by
  intro text rest v hread
  rw [Kind.list] at hread
  split at hread
  · cases d with
    | zero => cases hread
    | succ d =>
        obtain ⟨⟨items, rest'⟩, hitems, hread⟩ := bind_eq_ok.1 hread
        cases hread
        exact yields_readElements_depth (h d) hitems
  · cases hread

theorem yields_table (h : ∀ d, Yields (kind d) (·.depth ≤ d)) (d : Nat) :
    Yields (Kind.table kind d) (·.depth ≤ d) := by
  intro text rest v hread
  rw [Kind.table] at hread
  split at hread
  · cases d with
    | zero => cases hread
    | succ d =>
        obtain ⟨⟨o, rest'⟩, ho, hread⟩ := bind_eq_ok.1 hread
        cases hread
        exact yields_readMembers_depth (h d) ho
  · cases hread

end

/-! ## Records -/

section

variable {fields : List Field} {d : Nat}

/-- The fields that have been gathered nest so deep at most. -/
def Shallow (d : Nat) (gathered : List (String × Json)) : Prop :=
  ∀ entry ∈ gathered, entry.2.depth ≤ d

theorem yields_readField (hkinds : ∀ field ∈ fields, Yields (field.kind d) (·.depth ≤ d))
    {key : String} {gathered : List (String × Json)} (hgathered : Shallow d gathered) :
    Yields (readField fields d key gathered) (Shallow d) := by
  intro text rest gathered' hread
  rw [readField] at hread
  split at hread
  · obtain ⟨rest', -, hread⟩ := bind_eq_ok.1 hread
    obtain ⟨rest'', -, hread⟩ := bind_eq_ok.1 hread
    cases hread
    exact hgathered
  · rename_i field hfield
    split at hread
    · cases hread
    · obtain ⟨rest', -, hread⟩ := bind_eq_ok.1 hread
      obtain ⟨⟨v, rest''⟩, hv, hread⟩ := bind_eq_ok.1 hread
      cases hread
      exact List.forall_mem_cons.2 ⟨hkinds field (List.mem_of_find?_eq_some hfield) hv, hgathered⟩

theorem yields_readFieldList (hkinds : ∀ field ∈ fields, Yields (field.kind d) (·.depth ≤ d))
    (first : Bool) : Yields (readFieldList d first fields) (Shallow d) := by
  induction fields generalizing first with
  | nil =>
      intro text rest gathered hread
      rw [readFieldList] at hread
      split at hread
      case h_2 =>
        cases hread
        exact List.forall_mem_nil _
      all_goals cases hread
  | cons field fields ih =>
      have hnext {text rest rest' : Glyphs} {v : Json} {vs : List (String × Json)}
          (hv : field.kind d text = .ok (v, rest))
          (hvs : readFieldList d false fields rest = .ok (vs, rest')) :
          Shallow d ((field.name, v) :: vs) := by
        refine List.forall_mem_cons.2 ⟨hkinds field List.mem_cons_self hv, ?_⟩
        exact ih (fun other hother => hkinds other (List.mem_cons_of_mem field hother)) false hvs
      intro text rest gathered hread
      rw [readFieldList] at hread
      dsimp only at hread
      split at hread
      case h_1 => cases hread
      case h_2 =>
        split at hread
        · cases hread
          exact List.forall_mem_nil _
        · cases hread
      case h_3 =>
        split at hread
        · cases hread
        · obtain ⟨⟨v, rest'⟩, hv, hread⟩ := bind_eq_ok.1 hread
          obtain ⟨⟨vs, rest''⟩, hvs, hread⟩ := bind_eq_ok.1 hread
          cases hread
          exact hnext hv hvs
      case h_4 =>
        split at hread
        · obtain ⟨⟨v, rest'⟩, hv, hread⟩ := bind_eq_ok.1 hread
          obtain ⟨⟨vs, rest''⟩, hvs, hread⟩ := bind_eq_ok.1 hread
          cases hread
          exact hnext hv hvs
        · cases hread

theorem depth_le_of_complete (hdefaults : ∀ field ∈ fields, ∀ v ∈ field.default, v.depth ≤ d)
    {gathered : List (String × Json)} (hgathered : Shallow d gathered) {o : Object}
    (h : complete fields gathered = some o) : o.depth ≤ d := by
  refine Members.depth_le_iff_get?.2 fun key v hv => ?_
  rw [get?_complete h] at hv
  obtain ⟨field, hfield, hv⟩ := Option.bind_eq_some_iff.1 hv
  obtain hlookup | ⟨-, hdefault⟩ := Option.or_eq_some_iff.1 hv
  · obtain ⟨l, r, rfl, -⟩ := List.lookup_eq_some_iff.1 hlookup
    exact hgathered (field.name, v) (by simp)
  · exact hdefaults field (List.mem_of_find?_eq_some hfield) v hdefault

/-- A record is handed over as an object, and nests no deeper than the reader goes, unless a
field that was missing does. -/
theorem yields_record (hkinds : ∀ field ∈ fields, Yields (field.kind d) (·.depth ≤ d))
    (hdefaults : ∀ field ∈ fields, ∀ v ∈ field.default, v.depth ≤ d) :
    Yields (Kind.record fields (d + 1)) fun v => ∃ o, v = .obj o ∧ v.depth ≤ d + 1 := by
  intro text rest v hread
  rw [Kind.record] at hread
  dsimp only at hread
  split at hread
  case h_1 =>
    obtain ⟨⟨gathered, rest'⟩, hgathered, hread⟩ := bind_eq_ok.1 hread
    have hshallow : Shallow d gathered :=
      yields_readMembers (yields_readField hkinds) (List.forall_mem_nil _) hgathered
    dsimp only at hread
    split at hread
    · rename_i o ho
      cases hread
      exact ⟨o, rfl, Nat.succ_le_succ (depth_le_of_complete hdefaults hshallow ho)⟩
    · cases hread
  case h_2 =>
    obtain ⟨⟨gathered, rest'⟩, hgathered, hread⟩ := bind_eq_ok.1 hread
    have hshallow : Shallow d gathered := yields_readFieldList hkinds true hgathered
    dsimp only at hread
    split at hread
    · rename_i o ho
      cases hread
      exact ⟨o, rfl, Nat.succ_le_succ (depth_le_of_complete hdefaults hshallow ho)⟩
    · cases hread
  case h_3 => cases hread

end

end Json

end ClusterEvents
