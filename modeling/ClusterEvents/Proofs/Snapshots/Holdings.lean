import ClusterEvents.Snapshots.Repository
import ClusterEvents.Proofs.Text.Entries

/-!
# What stores hold

Both kinds of stores hold texts under groups and identifiers, one as lists of entries,
the other as rows of a table. `Holds s texts` says which texts a store holds, whatever its
kind. As long as no group's time is up, putting a text changes this text only, a look at
an identifier finds its text, and a look at a group finds its texts in ascending order.
-/

namespace ClusterEvents

/-- Texts under groups and identifiers. -/
abbrev Texts := String → String → Option String

/-- The texts with one more, in place of the one that was there. -/
def Texts.put (texts : Texts) (group id text : String) : Texts :=
  fun g i => if g = group ∧ i = id then some text else texts g i

/-! ## In memory -/

namespace MemoryStore

variable {s : MemoryStore} {texts : Texts} {now : Int}

/-- The entries of a group, whether it still lives or not. -/
def entriesOf (s : MemoryStore) (group : String) : List (String × String) :=
  ((Ascending.get? group s.groups).map (·.entries)).getD []

structure Holds (s : MemoryStore) (texts : Texts) : Prop where
  ascending (group : String) : (s.entriesOf group).Pairwise fun a b => a.1 < b.1
  get? (group id : String) : Ascending.get? id (s.entriesOf group) = texts group id

/-- When something expires that is written at a time. -/
def expiresAt (s : MemoryStore) (written : Int) : Int :=
  written + s.expiration.millis

/-- When the groups expire. -/
def deadlines (s : MemoryStore) : List Int :=
  s.groups.map fun entry => s.expiresAt entry.2.writtenAt

theorem getAll_of_forall_lt (h : ∀ t ∈ s.deadlines, now < t) (group : String) :
    s.getAll now group = s.entriesOf group := by
  rw [getAll, entriesOf]
  cases hget : Ascending.get? group s.groups with
  | none => rfl
  | some g =>
      have halive : now < s.expiresAt g.writtenAt :=
        h _ (List.mem_map_of_mem (Ascending.mem_of_get? hget))
      simp [isAlive, show now < g.writtenAt + s.expiration.millis from halive]

theorem mem_deadlines_put {group id text : String} {t : Int}
    (h : t ∈ (s.put now group id text).deadlines) : t = s.expiresAt now ∨ t ∈ s.deadlines := by
  obtain ⟨entry, hentry, rfl⟩ := List.mem_map.1 h
  rcases Ascending.mem_put hentry with rfl | hentry
  · exact .inl rfl
  · exact .inr (List.mem_map_of_mem hentry)

theorem entriesOf_put (h : ∀ t ∈ s.deadlines, now < t) (group id text other : String) :
    (s.put now group id text).entriesOf other =
      if other = group then Ascending.put id text (s.entriesOf group)
      else s.entriesOf other := by
  rw [entriesOf, put, Ascending.get?_put, getAll_of_forall_lt h]
  split
  · rfl
  · rfl

theorem Holds.put (h : s.Holds texts) (hfresh : ∀ t ∈ s.deadlines, now < t)
    (group id text : String) : (s.put now group id text).Holds (texts.put group id text) := by
  constructor
  · intro other
    rw [entriesOf_put hfresh]
    split
    · exact Ascending.put_pairwise (h.ascending group) id text
    · exact h.ascending other
  · intro other i
    rw [entriesOf_put hfresh, Texts.put]
    by_cases heq : other = group
    · subst heq
      simp [Ascending.get?_put, h.get?]
    · simp [heq, h.get?]

end MemoryStore

/-! ## In tables -/

/-- Where a row stands: in which group, and under which identifier. -/
def SnapshotRow.place (row : SnapshotRow) : String × String :=
  (row.group, row.id)

namespace DurableStore

variable {s : DurableStore} {texts : Texts} {now : Int}

structure Holds (s : DurableStore) (texts : Texts) : Prop where
  distinct : s.rows.Pairwise fun row other => row.place ≠ other.place
  find? (group id : String) :
    (s.rows.find? (·.place = (group, id))).map (·.text) = texts group id
  absent {group : String} : s.isAbsent group = true → ∀ id, texts group id = none

/-- When the groups expire. -/
def deadlines (s : DurableStore) : List Int :=
  s.expiries.map Prod.snd

theorem settled_of_forall_lt (h : ∀ t ∈ s.deadlines, now < t) (group : String) :
    s.settled now group = s := by
  have hnot : s.isExpired now group = false := by
    rw [isExpired]
    cases hget : Ascending.get? group s.expiries with
    | none => rfl
    | some time => simpa using h time (List.mem_map_of_mem (Ascending.mem_of_get? hget))
  simp [settled, hnot]

theorem get?_snd (s : DurableStore) (now : Int) (group id : String) :
    (s.get? now group id).2 = s.settled now group := by
  rw [DurableStore.get?]
  split
  · rfl
  · rfl

theorem getAll_snd (s : DurableStore) (now : Int) (group : String) :
    (s.getAll now group).2 = s.settled now group := by
  rw [DurableStore.getAll]
  split
  · rfl
  · rfl

theorem get?_snd_of_forall_lt (h : ∀ t ∈ s.deadlines, now < t) (group id : String) :
    (s.get? now group id).2 = s :=
  (get?_snd s now group id).trans (settled_of_forall_lt h group)

theorem getAll_snd_of_forall_lt (h : ∀ t ∈ s.deadlines, now < t) (group : String) :
    (s.getAll now group).2 = s :=
  (getAll_snd s now group).trans (settled_of_forall_lt h group)

theorem deadlines_settled (s : DurableStore) (now : Int) (group : String) :
    (s.settled now group).deadlines ⊆ s.deadlines := by
  rw [settled]
  split
  · exact (List.filter_sublist.map Prod.snd).subset
  · exact List.Subset.refl _

theorem mem_deadlines_put {expiration : Duration} {group id text : String} {t : Int}
    (h : t ∈ (s.put now expiration group id text).deadlines) :
    t = expiry now expiration ∨ t ∈ s.deadlines := by
  obtain ⟨entry, hentry, rfl⟩ := List.mem_map.1 h
  rcases Ascending.mem_put hentry with rfl | hentry
  · exact .inl rfl
  · exact .inr (deadlines_settled s now group (List.mem_map_of_mem hentry))

/-! ### Rows -/

theorem putRow_cons (row other : SnapshotRow) (rest : List SnapshotRow) :
    putRow row (other :: rest) =
      if other.place = row.place then row :: rest else other :: putRow row rest := by
  rw [putRow]
  simp only [SnapshotRow.place, Prod.mk.injEq]

theorem find?_putRow (row : SnapshotRow) (rows : List SnapshotRow) (place : String × String) :
    (putRow row rows).find? (·.place = place) =
      if row.place = place then some row else rows.find? (·.place = place) := by
  induction rows with
  | nil =>
      rw [putRow]
      by_cases hrow : row.place = place <;> simp [hrow]
  | cons other rest ih =>
      rw [putRow_cons]
      by_cases hsame : other.place = row.place
      · by_cases hrow : row.place = place <;> simp [hsame, hrow]
      · rw [if_neg hsame, List.find?_cons, List.find?_cons, ih]
        by_cases hother : other.place = place
        · have hrow : row.place ≠ place := fun h => hsame (hother.trans h.symm)
          simp [hother, hrow]
        · simp [hother]

theorem mem_putRow {row x : SnapshotRow} {rows : List SnapshotRow} (h : x ∈ putRow row rows) :
    x = row ∨ x ∈ rows := by
  induction rows with
  | nil => simpa [putRow] using h
  | cons other rest ih =>
      rw [putRow_cons] at h
      split at h
      · rcases List.mem_cons.1 h with h | h
        · exact .inl h
        · exact .inr (List.mem_cons_of_mem other h)
      · rcases List.mem_cons.1 h with h | h
        · exact .inr (h ▸ List.mem_cons_self)
        · exact (ih h).imp_right (List.mem_cons_of_mem other)

theorem pairwise_putRow (row : SnapshotRow) {rows : List SnapshotRow}
    (h : rows.Pairwise fun row other => row.place ≠ other.place) :
    (putRow row rows).Pairwise fun row other => row.place ≠ other.place := by
  induction rows with
  | nil => simp [putRow]
  | cons other rest ih =>
      obtain ⟨hother, hrest⟩ := List.pairwise_cons.1 h
      rw [putRow_cons]
      split
      · rename_i hsame
        exact List.pairwise_cons.2 ⟨fun x hx => hsame ▸ hother x hx, hrest⟩
      · rename_i hne
        refine List.pairwise_cons.2 ⟨fun x hx => ?_, ih hrest⟩
        rcases mem_putRow hx with rfl | hx
        · exact hne
        · exact hother x hx

/-- The text under a group and an identifier, whether the group's time is up or not. -/
def textOf (s : DurableStore) (group id : String) : Option String :=
  (s.rows.find? (·.place = (group, id))).map (·.text)

theorem textOf_putRow {group id text : String} (expiries : List (String × Int))
    (other i : String) :
    textOf ⟨expiries, putRow ⟨group, id, text⟩ s.rows⟩ other i =
      if other = group ∧ i = id then some text else s.textOf other i := by
  rw [textOf, find?_putRow]
  by_cases hsame : other = group ∧ i = id
  · obtain ⟨rfl, rfl⟩ := hsame
    simp [SnapshotRow.place]
  · have hne : SnapshotRow.place ⟨group, id, text⟩ ≠ (other, i) := by
      rintro ⟨⟩
      exact hsame ⟨rfl, rfl⟩
    rw [if_neg hne, if_neg hsame, textOf]

/-- The entries that rows of one group come to. -/
def entriesOf (rows : List SnapshotRow) : List (String × String) :=
  rows.foldl (fun entries row => Ascending.put row.id row.text entries) []

theorem get?_foldl_put {rows : List SnapshotRow}
    (h : rows.Pairwise fun row other => row.id ≠ other.id) (entries : List (String × String))
    (id : String) :
    Ascending.get? id
        (rows.foldl (fun entries row => Ascending.put row.id row.text entries) entries) =
      ((rows.find? (·.id = id)).map (·.text)).or (Ascending.get? id entries) := by
  induction rows generalizing entries with
  | nil => rfl
  | cons row rest ih =>
      obtain ⟨hrow, hrest⟩ := List.pairwise_cons.1 h
      rw [List.foldl_cons, ih hrest, Ascending.get?_put]
      by_cases hid : id = row.id
      · subst hid
        have hnone : rest.find? (·.id = row.id) = none := by
          simp only [List.find?_eq_none, decide_eq_true_eq]
          exact fun x hx heq => hrow x hx heq.symm
        simp [hnone]
      · simp [hid, Ne.symm hid]

theorem pairwise_foldl_put (rows : List SnapshotRow) {entries : List (String × String)}
    (h : entries.Pairwise fun a b => a.1 < b.1) :
    (rows.foldl (fun entries row => Ascending.put row.id row.text entries) entries).Pairwise
      fun a b => a.1 < b.1 := by
  induction rows generalizing entries with
  | nil => exact h
  | cons row rest ih => exact ih (Ascending.put_pairwise h row.id row.text)

theorem get?_entriesOf {rows : List SnapshotRow}
    (h : rows.Pairwise fun row other => row.place ≠ other.place) (group id : String) :
    Ascending.get? id (entriesOf (rows.filter fun row => row.group = group)) =
      (rows.find? (·.place = (group, id))).map (·.text) := by
  have hdistinct : (rows.filter fun row => row.group = group).Pairwise
      fun row other => row.id ≠ other.id := by
    refine (h.filter _).imp_of_mem fun {row other} hrow hother hne hid => hne ?_
    have hgroup : row.group = other.group :=
      (of_decide_eq_true (List.mem_filter.1 hrow).2).trans
        (of_decide_eq_true (List.mem_filter.1 hother).2).symm
    exact Prod.ext hgroup hid
  rw [entriesOf, get?_foldl_put hdistinct, List.find?_filter]
  simp only [SnapshotRow.place, Prod.mk.injEq, Bool.decide_and, Bool.decide_eq_true,
    Ascending.get?, Option.or_none]

/-! ### Operations -/

theorem Holds.put (h : s.Holds texts) (hfresh : ∀ t ∈ s.deadlines, now < t) (expiration : Duration)
    (group id text : String) :
    (s.put now expiration group id text).Holds (texts.put group id text) := by
  rw [DurableStore.put, settled_of_forall_lt hfresh]
  constructor
  · exact pairwise_putRow _ h.distinct
  · intro g i
    refine (textOf_putRow _ g i).trans ?_
    rw [Texts.put, textOf, h.find?]
  · intro g habsent i
    rw [isAbsent, Ascending.get?_put] at habsent
    by_cases hg : g = group
    · simp [hg] at habsent
    · rw [if_neg hg] at habsent
      rw [Texts.put, if_neg (fun heq => hg heq.1)]
      exact h.absent habsent i

theorem Holds.get? (h : s.Holds texts) (hfresh : ∀ t ∈ s.deadlines, now < t) (group id : String) :
    (s.get? now group id).1 = texts group id := by
  rw [DurableStore.get?, settled_of_forall_lt hfresh]
  split
  · rename_i habsent
    exact (h.absent habsent id).symm
  · rw [← h.find? group id]
    simp only [SnapshotRow.place, Prod.mk.injEq]

theorem getAll_of_forall_lt (hfresh : ∀ t ∈ s.deadlines, now < t) (group : String) :
    (s.getAll now group).1 =
      if s.isAbsent group then [] else entriesOf (s.rows.filter fun row => row.group = group) := by
  rw [DurableStore.getAll, settled_of_forall_lt hfresh]
  split
  · rfl
  · rfl

theorem Holds.getAll (h : s.Holds texts) (hfresh : ∀ t ∈ s.deadlines, now < t) (group : String) :
    (s.getAll now group).1.Pairwise (fun a b => a.1 < b.1) ∧
      ∀ id, Ascending.get? id (s.getAll now group).1 = texts group id := by
  rw [getAll_of_forall_lt hfresh]
  split
  · rename_i habsent
    exact ⟨.nil, fun id => (h.absent habsent id).symm⟩
  · refine ⟨pairwise_foldl_put _ .nil, fun id => ?_⟩
    rw [get?_entriesOf h.distinct, h.find?]

end DurableStore

/-! ## Either kind -/

namespace SnapshotStore

variable {s : SnapshotStore} {texts : Texts} {now : Int}

/-- The store holds these texts, and no others. -/
def Holds : SnapshotStore → Texts → Prop
  | .memory s, texts => s.Holds texts
  | .durable _ s, texts => s.Holds texts

/-- When something expires that is written at a time. -/
def expiresAt (written : Int) : SnapshotStore → Int
  | .memory s => s.expiresAt written
  | .durable expiration _ => DurableStore.expiry written expiration

/-- When the groups of a store expire. -/
def deadlines : SnapshotStore → List Int
  | .memory s => s.deadlines
  | .durable _ s => s.deadlines

/-- Nothing in the store has outlived its time. -/
def IsFresh (now : Int) (s : SnapshotStore) : Prop :=
  ∀ t ∈ s.deadlines, now < t

@[simp] theorem expiresAt_put (now : Int) (group id text : String) (written : Int) :
    (s.put now group id text).expiresAt written = s.expiresAt written := by
  cases s <;> rfl

theorem mem_deadlines_put {group id text : String} {t : Int}
    (h : t ∈ (s.put now group id text).deadlines) : t = s.expiresAt now ∨ t ∈ s.deadlines := by
  cases s with
  | memory s => exact MemoryStore.mem_deadlines_put h
  | durable expiration s => exact DurableStore.mem_deadlines_put h

instance (now : Int) (s : SnapshotStore) : Decidable (s.IsFresh now) :=
  inferInstanceAs (Decidable (∀ t ∈ s.deadlines, now < t))

/-- Only what has outlived its time is cleared away when a store is looked at. -/
theorem get?_snd_of_isFresh (h : s.IsFresh now) (group id : String) :
    (s.get? now group id).2 = s := by
  cases s with
  | memory s => rfl
  | durable expiration s =>
      exact congrArg (durable expiration) (DurableStore.get?_snd_of_forall_lt h group id)

theorem getAll_snd_of_isFresh (h : s.IsFresh now) (group : String) :
    (s.getAll now group).2 = s := by
  cases s with
  | memory s => rfl
  | durable expiration s =>
      exact congrArg (durable expiration) (DurableStore.getAll_snd_of_forall_lt h group)

/-- Nothing has been written to the store. -/
def IsEmpty : SnapshotStore → Prop
  | .memory s => s.groups = []
  | .durable _ s => s.expiries = [] ∧ s.rows = []

theorem deadlines_of_isEmpty (h : s.IsEmpty) : s.deadlines = [] := by
  cases s with
  | memory s => exact List.map_eq_nil_iff.2 h
  | durable expiration s => exact List.map_eq_nil_iff.2 h.1

theorem holds_of_isEmpty (h : s.IsEmpty) : s.Holds fun _ _ => none := by
  cases s with
  | memory s =>
      constructor <;> simp_all [IsEmpty, MemoryStore.entriesOf, Ascending.get?]
  | durable expiration s =>
      obtain ⟨hexpiries, hrows⟩ := h
      constructor <;> simp_all

theorem Holds.put (h : s.Holds texts) (hfresh : s.IsFresh now) (group id text : String) :
    (s.put now group id text).Holds (texts.put group id text) := by
  cases s with
  | memory s => exact MemoryStore.Holds.put h hfresh group id text
  | durable expiration s => exact DurableStore.Holds.put h hfresh expiration group id text

theorem Holds.get? (h : s.Holds texts) (hfresh : s.IsFresh now) (group id : String) :
    (s.get? now group id).1 = texts group id := by
  cases s with
  | memory s =>
      refine Eq.trans ?_ (MemoryStore.Holds.get? h group id)
      exact congrArg (Ascending.get? id) (MemoryStore.getAll_of_forall_lt hfresh group)
  | durable expiration s => exact DurableStore.Holds.get? h hfresh group id

theorem Holds.getAll (h : s.Holds texts) (hfresh : s.IsFresh now) (group : String) :
    (s.getAll now group).1.Pairwise (fun a b => a.1 < b.1) ∧
      ∀ id, Ascending.get? id (s.getAll now group).1 = texts group id := by
  cases s with
  | memory s =>
      rw [SnapshotStore.getAll, MemoryStore.getAll_of_forall_lt hfresh]
      exact ⟨MemoryStore.Holds.ascending h group, MemoryStore.Holds.get? h group⟩
  | durable expiration s => exact DurableStore.Holds.getAll h hfresh group

end SnapshotStore

end ClusterEvents
