import ClusterEvents.Proofs.Snapshots.Holdings

/-!
# The lifetimes of groups

A group lives for a while after each write to it, and a write to a group whose time is up
starts it anew. So what a group shows follows from the writes to it alone (`shown`),
whatever else was done: from the latest one, if that was not too long ago, and from those
before it as far as none came too late for the one before.

Histories are read backwards, with what happened last in front.
-/

namespace ClusterEvents

namespace DurableStore

/-- What is asked of a store. -/
inductive Operation where
  | put (group id text : String)
  | get (group id : String)
  | getAll (group : String)
  | purge

inductive Reply where
  | done
  | text (text : Option String)
  | entries (entries : List (String × String))
  | count (n : Nat)
deriving DecidableEq

/-- What was asked of a store and when, the latest first. -/
abbrev History := List (Int × Operation)

def perform (expiration : Duration) (now : Int) (s : DurableStore) :
    Operation → Reply × DurableStore
  | .put group id text => (.done, s.put now expiration group id text)
  | .get group id => (.text (s.get? now group id).1, (s.get? now group id).2)
  | .getAll group => (.entries (s.getAll now group).1, (s.getAll now group).2)
  | .purge => (.count (s.purge now).1, (s.purge now).2)

/-- A store that was empty in the beginning. -/
def after (expiration : Duration) : History → DurableStore
  | [] => {}
  | (now, operation) :: earlier => ((after expiration earlier).perform expiration now operation).2

/-- What comes back when an operation follows on a history. -/
def reply (expiration : Duration) (h : History) (now : Int) (operation : Operation) : Reply :=
  ((after expiration h).perform expiration now operation).1

namespace Operation

def IsRead : Operation → Prop
  | .get _ _ | .getAll _ => True
  | .put _ _ _ | .purge => False

/-- Whether a group is looked at, which is when it is noticed that its time is up. -/
def looksAt (group : String) : Operation → Bool
  | .put other _ _ | .get other _ | .getAll other => group = other
  | .purge => true

def writesTo (group : String) : Operation → Bool
  | .put other _ _ => group = other
  | .get _ _ | .getAll _ | .purge => false

end Operation

/-! ## Writes -/

/-- A write to a group. -/
structure Write where
  time : Int
  id : String
  text : String
deriving DecidableEq

/-- The write to a group that an operation is. -/
def Operation.write? (group : String) (time : Int) : Operation → Option Write
  | .put other id text => if group = other then some ⟨time, id, text⟩ else none
  | .get _ _ | .getAll _ | .purge => none

/-- The writes to a group, the latest first. -/
def writes (group : String) (h : History) : List Write :=
  h.filterMap fun entry => entry.2.write? group entry.1

/-- Whether the time of a group with these writes is not up yet. -/
def IsAlive (expiration : Duration) (now : Int) (writes : List Write) : Prop :=
  ∃ latest ∈ writes.head?, now < latest.time + expiration.millis

/-- The writes since the time of the group was up last. -/
def recent (expiration : Duration) : Int → List Write → List Write
  | _, [] => []
  | now, latest :: earlier =>
    if now < latest.time + expiration.millis then
      latest :: recent expiration latest.time earlier
    else []

/-- The texts that writes leave, in ascending order of identifiers. -/
def entries (writes : List Write) : List (String × String) :=
  writes.foldr (fun write entries => Ascending.put write.id write.text entries) []

/-- What a group shows. -/
def shown (expiration : Duration) (now : Int) (group : String) (h : History) :
    List (String × String) :=
  entries (recent expiration now (writes group h))

/-- Whether a group is still stored: it was written to, and since then nothing looked at it
when its time was up. -/
def IsStored (expiration : Duration) (group : String) : History → Prop
  | [] => False
  | (now, operation) :: earlier =>
    operation.writesTo group = true ∨ IsStored expiration group earlier ∧
      (operation.looksAt group = true → IsAlive expiration now (writes group earlier))

variable {expiration : Duration} {now later : Int} {group : String} {h : History}
  {old new : List Write}

theorem isAlive_cons {latest : Write} :
    IsAlive expiration now (latest :: old) ↔ now < latest.time + expiration.millis := by
  simp [IsAlive]

theorem not_isAlive_nil : ¬ IsAlive expiration now [] := by
  simp [IsAlive]

/-- A group does not come back to life by itself. -/
theorem IsAlive.of_le (hle : now ≤ later) (halive : IsAlive expiration later old) :
    IsAlive expiration now old := by
  obtain ⟨latest, hlatest, hlater⟩ := halive
  exact ⟨latest, hlatest, Int.lt_of_le_of_lt hle hlater⟩

theorem recent_of_not_isAlive (hdead : ¬ IsAlive expiration now old) :
    recent expiration now old = [] := by
  cases old with
  | nil => rfl
  | cons latest earlier =>
      rw [isAlive_cons] at hdead
      rw [recent, if_neg hdead]

theorem recent_of_lt {latest : Write} (halive : now < latest.time + expiration.millis) :
    recent expiration now (latest :: old) = latest :: recent expiration latest.time old := by
  rw [recent, if_pos halive]

theorem recent_eq_nil_iff : recent expiration now old = [] ↔ ¬ IsAlive expiration now old := by
  refine ⟨fun hnil halive => ?_, recent_of_not_isAlive⟩
  cases old with
  | nil => exact not_isAlive_nil halive
  | cons latest earlier =>
      rw [recent_of_lt (isAlive_cons.1 halive)] at hnil
      cases hnil

/-- The writes to a group whose time was up are as good as none for those that follow. -/
theorem recent_append (hdead : ¬ IsAlive expiration now old) (hlater : now ≤ later)
    (hnew : ∀ write ∈ new, now ≤ write.time) :
    recent expiration later (new ++ old) = recent expiration later new := by
  induction new generalizing later with
  | nil => exact recent_of_not_isAlive fun halive => hdead (halive.of_le hlater)
  | cons latest earlier ih =>
      obtain ⟨hlatest, hearlier⟩ := List.forall_mem_cons.1 hnew
      rw [List.cons_append, recent, recent, ih hlatest hearlier]

theorem pairwise_entries (writes : List Write) :
    (entries writes).Pairwise fun a b => a.1 < b.1 := by
  induction writes with
  | nil => exact .nil
  | cons latest earlier ih => exact Ascending.put_pairwise ih latest.id latest.text

theorem get?_entries_cons (latest : Write) (earlier : List Write) (id : String) :
    Ascending.get? id (entries (latest :: earlier)) =
      if id = latest.id then some latest.text else Ascending.get? id (entries earlier) :=
  Ascending.get?_put _ _ _ _

theorem entries_eq_nil_iff {writes : List Write} : entries writes = [] ↔ writes = [] := by
  cases writes with
  | nil => exact iff_of_true rfl rfl
  | cons latest earlier =>
      refine iff_of_false (fun hnil => ?_) (by simp)
      have hget := get?_entries_cons latest earlier latest.id
      rw [hnil, if_pos rfl] at hget
      cases hget

theorem shown_eq_nil_iff :
    shown expiration now group h = [] ↔ ¬ IsAlive expiration now (writes group h) := by
  rw [shown, entries_eq_nil_iff, recent_eq_nil_iff]

/-! ## Writes of histories -/

theorem writes_append (group : String) (h h' : History) :
    writes group (h ++ h') = writes group h ++ writes group h' :=
  List.filterMap_append

theorem writes_put (group : String) (now : Int) (other id text : String) (h : History) :
    writes group ((now, .put other id text) :: h) =
      if group = other then ⟨now, id, text⟩ :: writes group h else writes group h := by
  by_cases heq : group = other <;> simp [writes, Operation.write?, heq]

theorem write?_eq_none_iff {operation : Operation} :
    operation.write? group now = none ↔ operation.writesTo group = false := by
  cases operation <;> simp [Operation.write?, Operation.writesTo]

theorem writes_cons_of_not_writesTo {operation : Operation}
    (hno : operation.writesTo group = false) (now : Int) (h : History) :
    writes group ((now, operation) :: h) = writes group h :=
  List.filterMap_cons_none (write?_eq_none_iff.2 hno)

/-- A history without the writes to a group. -/
def unwritten (group : String) (h : History) : History :=
  h.filter fun entry => !entry.2.writesTo group

theorem writes_unwritten_self (group : String) (h : History) :
    writes group (unwritten group h) = [] := by
  refine List.filterMap_eq_nil_iff.2 fun entry hentry => write?_eq_none_iff.2 ?_
  simpa using (List.mem_filter.1 hentry).2

theorem writes_unwritten_of_ne {other : String} (hother : other ≠ group) (h : History) :
    writes other (unwritten group h) = writes other h := by
  rw [writes, unwritten, List.filterMap_filter, writes]
  refine List.filterMap_congr fun ⟨time, operation⟩ _ => ?_
  cases operation with
  | put written id text =>
      by_cases hwritten : group = written
      · subst hwritten
        simp [Operation.writesTo, Operation.write?, hother]
      · simp [Operation.writesTo, hwritten]
  | _ => rfl

theorem time_mem_of_mem_writes {write : Write} (hmem : write ∈ writes group h) :
    write.time ∈ h.map Prod.fst := by
  obtain ⟨⟨time, operation⟩, hentry, heq⟩ := List.mem_filterMap.1 hmem
  have htime : write.time = time := by
    cases operation with
    | put other id text =>
        simp only [Operation.write?, Option.ite_none_right_eq_some] at heq
        exact congrArg Write.time (Option.some.inj heq.2).symm
    | _ => cases heq
  exact htime ▸ List.mem_map_of_mem hentry

end DurableStore

end ClusterEvents
