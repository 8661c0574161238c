import ClusterEvents.Proofs.Snapshots.Lifetimes

/-!
# Groups expire

A group whose time is up stays in the tables until somebody looks at it or until all such
groups are cleared away. Nobody can tell: what is stored of a group is what its writes since
its time was up last have left (`Agrees`), and it is not shown once its time is up again. So
a group shows what follows from its writes, and whether it has been cleared away shows only
in how many groups are still to be (`groups_expire`).
-/

namespace ClusterEvents

-- Powers are those that numbers bring along, whatever else is imported.
attribute [local instance (high)] instPowNat instNatPowNat Int.instNatPow

namespace DurableStore

variable {expiration : Duration} {now : Int} {s : DurableStore} {h : History}
  {group id text : String}

/-! ## Times -/

/-- Times that are read from a clock which never goes back, the latest first. None of them,
and no time of expiry, is out of the range of numbers. -/
structure Timely (expiration : Duration) (times : List Int) : Prop where
  ordered : times.Pairwise fun later earlier => earlier ≤ later
  inRange : ∀ time ∈ times,
    -(2 ^ (63 : Nat)) ≤ time ∧ time + expiration.millis < 2 ^ (63 : Nat)

theorem expiry_eq (hexpiration : expiration.millis < 2 ^ (63 : Nat))
    (hlow : -(2 ^ (63 : Nat)) ≤ now) (hhigh : now + expiration.millis < 2 ^ (63 : Nat)) :
    expiry now expiration = now + expiration.millis := by
  have hwrapped : wrapped expiration.millis = expiration.millis := by
    apply Int.bmod_eq_of_le_mul_two
    · omega
    · omega
  rw [expiry, hwrapped, clamped]
  omega

/-! ## What is stored of a group -/

/-- The store without some groups. -/
def without (s : DurableStore) (gone : String → Bool) : DurableStore where
  expiries := s.expiries.filter fun entry => !gone entry.1
  rows := s.rows.filter fun row => !gone row.group

theorem get?_without (gone : String → Bool) :
    Ascending.get? group (s.without gone).expiries =
      if gone group then none else Ascending.get? group s.expiries := by
  rw [without, Ascending.get?_filter (fun g => !gone g)]
  by_cases hgone : gone group = true <;> simp [hgone]

theorem textOf_without (gone : String → Bool) :
    (s.without gone).textOf group id = if gone group then none else s.textOf group id := by
  have hrow (row : SnapshotRow) : decide (¬ gone row.group = true ∧ row.place = (group, id)) =
      (!gone group && decide (row.place = (group, id))) := by
    by_cases hplace : row.place = (group, id)
    · have hgroup : row.group = group := congrArg Prod.fst hplace
      simp [hplace, hgroup]
    · simp [hplace]
  rw [textOf, without, List.find?_filter]
  simp only [Bool.not_eq_true', ← Bool.not_eq_true, decide_eq_true_eq, hrow]
  by_cases hgone : gone group = true <;> simp [hgone, textOf]

theorem isExpired_iff :
    s.isExpired now group = true ↔
      ∃ time, Ascending.get? group s.expiries = some time ∧ time ≤ now := by
  rw [isExpired, Option.any_eq_true]
  simp

/-- A look at a group deletes it if its time is up. -/
theorem settled_eq :
    s.settled now group =
      s.without fun other => decide (other = group) && s.isExpired now other := by
  rw [settled]
  split
  · rename_i hexpired
    have hgone (other : String) : (!(decide (other = group) && s.isExpired now other)) =
        decide (other ≠ group) := by
      by_cases hother : other = group
      · simp [hother, hexpired]
      · simp [hother]
    simp only [deleteGroup, without, Ascending.erase, hgone]
  · rename_i halive
    have hgone (other : String) :
        (!(decide (other = group) && s.isExpired now other)) = true := by
      by_cases hother : other = group
      · simp [hother, halive]
      · simp [hother]
    simp only [without, hgone, List.filter_true]

theorem mem_expired_iff (h : s.expiries.Pairwise fun a b => a.1 < b.1) :
    group ∈ (s.expiries.filter fun entry => entry.2 ≤ now).map Prod.fst ↔
      s.isExpired now group = true := by
  rw [isExpired_iff]
  constructor
  · intro hmem
    obtain ⟨⟨other, time⟩, hentry, rfl⟩ := List.mem_map.1 hmem
    obtain ⟨hentry, hle⟩ := List.mem_filter.1 hentry
    exact ⟨time, (Ascending.get?_eq_some_iff h).2 hentry, of_decide_eq_true hle⟩
  · rintro ⟨time, hget, hle⟩
    have hentry := (Ascending.get?_eq_some_iff h).1 hget
    exact List.mem_map.2 ⟨(group, time), List.mem_filter.2 ⟨hentry, decide_eq_true hle⟩, rfl⟩

/-- To clear away is to look at every group. -/
theorem purge_snd (h : s.expiries.Pairwise fun a b => a.1 < b.1) :
    (s.purge now).2 = s.without (s.isExpired now) := by
  have hexpiries : (s.expiries.filter fun entry => ¬ entry.2 ≤ now) =
      s.expiries.filter fun entry => !s.isExpired now entry.1 := by
    refine List.filter_congr fun entry hentry => ?_
    have hget := (Ascending.get?_eq_some_iff h).2 hentry
    rw [isExpired, hget, Option.any_some, decide_not]
  have hrows : (s.rows.filter fun row =>
      row.group ∉ (s.expiries.filter fun entry => entry.2 ≤ now).map Prod.fst) =
      s.rows.filter fun row => !s.isExpired now row.group := by
    refine List.filter_congr fun row _ => ?_
    simp only [decide_not, mem_expired_iff h, Bool.decide_eq_true]
  rw [purge, without, hexpiries, hrows]

/-! ## What the tables have to do with the history -/

/-- The tables are as a history has left them. -/
structure Agrees (expiration : Duration) (h : History) (s : DurableStore) : Prop where
  ascending : s.expiries.Pairwise fun a b => a.1 < b.1
  distinct : s.rows.Pairwise fun row other => row.place ≠ other.place
  /-- What is stored of a group is what its writes have left by the latest one. -/
  stored {group : String} {time : Int} : Ascending.get? group s.expiries = some time →
    ∃ latest earlier, writes group h = latest :: earlier ∧
      time = latest.time + expiration.millis ∧
      ∀ id, s.textOf group id =
        Ascending.get? id (entries (latest :: recent expiration latest.time earlier))
  /-- A group of which nothing is stored is dead. -/
  missing {group : String} : Ascending.get? group s.expiries = none →
    (∀ id, s.textOf group id = none) ∧
      ∀ now, (∀ time ∈ h.map Prod.fst, time ≤ now) → ¬ IsAlive expiration now (writes group h)
  isStored_iff {group : String} :
    (Ascending.get? group s.expiries).isSome = true ↔ IsStored expiration group h

theorem agrees_nil (expiration : Duration) : Agrees expiration [] {} where
  ascending := .nil
  distinct := .nil
  stored := fun hget => by cases hget
  missing := fun _ => ⟨fun _ => rfl, fun _ _ => not_isAlive_nil⟩
  isStored_iff := iff_of_false (fun hsome => by cases hsome) id

/-- A group is alive when it is stored and its time is not up. -/
theorem Agrees.isAlive_iff (h' : Agrees expiration h s)
    (hnow : ∀ time ∈ h.map Prod.fst, time ≤ now) :
    IsAlive expiration now (writes group h) ↔
      ∃ time, Ascending.get? group s.expiries = some time ∧ now < time := by
  cases hget : Ascending.get? group s.expiries with
  | none => exact iff_of_false ((h'.missing hget).2 now hnow) (by simp)
  | some time =>
      obtain ⟨latest, earlier, hwrites, htime, -⟩ := h'.stored hget
      simp [hwrites, isAlive_cons, htime]

/-- The texts of a group that is not stored beyond its time. -/
theorem Agrees.textOf_eq (h' : Agrees expiration h s)
    (hnow : ∀ time ∈ h.map Prod.fst, time ≤ now)
    (hlive : ∀ time, Ascending.get? group s.expiries = some time → now < time) (id : String) :
    s.textOf group id = Ascending.get? id (shown expiration now group h) := by
  rw [shown]
  cases hget : Ascending.get? group s.expiries with
  | none =>
      obtain ⟨hnone, hdead⟩ := h'.missing hget
      rw [hnone, recent_of_not_isAlive (hdead now hnow)]
      rfl
  | some time =>
      obtain ⟨latest, earlier, hwrites, htime, htext⟩ := h'.stored hget
      rw [hwrites, recent_of_lt (htime ▸ hlive time hget), htext]

/-- A look at groups deletes those whose time is up, which the history knows. -/
theorem Agrees.look (h' : Agrees expiration h s) {operation : Operation}
    (hnow : ∀ time ∈ h.map Prod.fst, time ≤ now)
    (hread : ∀ group, operation.writesTo group = false) :
    Agrees expiration ((now, operation) :: h)
      (s.without fun group => operation.looksAt group && s.isExpired now group) := by
  have hwrites (group : String) :
      writes group ((now, operation) :: h) = writes group h :=
    writes_cons_of_not_writesTo (hread group) now h
  refine ⟨h'.ascending.filter _, h'.distinct.filter _, ?_, ?_, ?_⟩
  · intro group time hget
    rw [get?_without] at hget
    split at hget
    · cases hget
    · rename_i hstays
      obtain ⟨latest, earlier, hlatest, htime, htext⟩ := h'.stored hget
      refine ⟨latest, earlier, (hwrites group).trans hlatest, htime, fun id => ?_⟩
      rw [textOf_without, if_neg hstays, htext]
  · intro group hget
    rw [get?_without] at hget
    simp only [hwrites, textOf_without]
    by_cases hgone : (operation.looksAt group && s.isExpired now group) = true
    · refine ⟨fun id => if_pos hgone, fun later hlater halive => ?_⟩
      have hle : now ≤ later := hlater now List.mem_cons_self
      obtain ⟨time, htime, hlt⟩ := (h'.isAlive_iff hnow).1 (halive.of_le hle)
      obtain ⟨time', htime', hle'⟩ := isExpired_iff.1 (Bool.and_eq_true_iff.1 hgone).2
      obtain rfl := Option.some.inj (htime.symm.trans htime')
      omega
    · rw [if_neg hgone] at hget
      obtain ⟨hnone, hdead⟩ := h'.missing hget
      refine ⟨fun id => by rw [if_neg hgone, hnone], fun later hlater => ?_⟩
      exact hdead later fun time htime => hlater time (List.mem_cons_of_mem now htime)
  · intro group
    rw [get?_without, IsStored, hread, ← h'.isStored_iff, h'.isAlive_iff hnow]
    cases hget : Ascending.get? group s.expiries with
    | none => simp
    | some time =>
        have hexpired : s.isExpired now group = decide (time ≤ now) := by
          rw [isExpired, hget, Option.any_some]
        by_cases hlooks : operation.looksAt group = true
        · by_cases hle : time ≤ now
          · simp [hexpired, hlooks, hle]
          · simp [hexpired, hlooks, hle, Int.lt_of_not_ge hle]
        · simp [hlooks]

theorem Agrees.settled (h' : Agrees expiration h s) {operation : Operation}
    (hnow : ∀ time ∈ h.map Prod.fst, time ≤ now)
    (hread : ∀ group, operation.writesTo group = false)
    (hlooks : ∀ other, operation.looksAt other = decide (other = group)) :
    Agrees expiration ((now, operation) :: h) (s.settled now group) := by
  have hlook := h'.look hnow hread
  simp only [hlooks] at hlook
  rwa [settled_eq]

theorem lt_of_get?_settled {time : Int}
    (hget : Ascending.get? group (s.settled now group).expiries = some time) : now < time := by
  rw [settled_eq, get?_without] at hget
  split at hget
  · cases hget
  · rename_i hstays
    refine Int.lt_of_not_ge fun hle => hstays ?_
    rw [isExpired_iff.2 ⟨time, hget, hle⟩]
    simp

/-- A group is written to when it has just been looked at. -/
theorem Agrees.write (h' : Agrees expiration ((now, .get group id) :: h) s)
    (hnow : ∀ time ∈ h.map Prod.fst, time ≤ now)
    (hlive : ∀ time, Ascending.get? group s.expiries = some time → now < time) (text : String) :
    Agrees expiration ((now, .put group id text) :: h)
      ⟨Ascending.put group (now + expiration.millis) s.expiries,
        putRow ⟨group, id, text⟩ s.rows⟩ := by
  have hbefore (other : String) : writes other ((now, .get group id) :: h) = writes other h :=
    writes_cons_of_not_writesTo rfl now h
  have hbound : ∀ time ∈ ((now, Operation.get group id) :: h).map Prod.fst, time ≤ now :=
    List.forall_mem_cons.2 ⟨Int.le_refl now, hnow⟩
  refine ⟨Ascending.put_pairwise h'.ascending _ _, pairwise_putRow _ h'.distinct, ?_, ?_, ?_⟩
  · intro other time hget
    rw [Ascending.get?_put] at hget
    rw [writes_put]
    simp only [textOf_putRow]
    by_cases hother : other = group
    · subst hother
      rw [if_pos rfl] at hget ⊢
      refine ⟨_, _, rfl, (Option.some.inj hget).symm, fun i => ?_⟩
      have htext := h'.textOf_eq hbound hlive i
      rw [shown, hbefore] at htext
      simp only [get?_entries_cons, htext, true_and]
    · rw [if_neg hother] at hget ⊢
      obtain ⟨latest, earlier, hlatest, htime, htext⟩ := h'.stored hget
      refine ⟨latest, earlier, (hbefore other).symm.trans hlatest, htime, fun i => ?_⟩
      rw [if_neg fun hsame => hother hsame.1, htext]
  · intro other hget
    rw [Ascending.get?_put] at hget
    split at hget
    · cases hget
    · rename_i hother
      obtain ⟨hnone, hdead⟩ := h'.missing hget
      rw [hbefore] at hdead
      rw [writes_put, if_neg hother]
      refine ⟨fun i => ?_, hdead⟩
      rw [textOf_putRow, if_neg fun hsame => hother hsame.1, hnone]
  · intro other
    rw [Ascending.get?_put]
    have hstored : (Ascending.get? other s.expiries).isSome = true ↔
        IsStored expiration other ((now, .get group id) :: h) := h'.isStored_iff
    by_cases hother : other = group
    · simp [IsStored, Operation.writesTo, hother]
    · simp only [IsStored, Operation.writesTo, Operation.looksAt, hother] at hstored ⊢
      simpa using hstored

/-- What holds of a store that was empty in the beginning. -/
theorem agrees_after (hexpiration : expiration.millis < 2 ^ (63 : Nat))
    (htimely : Timely expiration (h.map Prod.fst)) :
    Agrees expiration h (after expiration h) := by
  induction h with
  | nil => exact agrees_nil expiration
  | cons entry h ih =>
      obtain ⟨now, operation⟩ := entry
      obtain ⟨hnow, hordered⟩ := List.pairwise_cons.1 htimely.ordered
      obtain ⟨⟨hlow, hhigh⟩, hinRange⟩ := List.forall_mem_cons.1 htimely.inRange
      have hbefore := ih ⟨hordered, hinRange⟩
      cases operation with
      | put group id text =>
          -- A group is looked at before it is written to.
          have hlook : Agrees expiration ((now, .get group id) :: h)
              ((after expiration h).settled now group) :=
            hbefore.settled hnow (fun _ => rfl) fun _ => rfl
          have hwrite := hlook.write hnow (fun _ => lt_of_get?_settled) text
          rwa [← expiry_eq hexpiration hlow hhigh] at hwrite
      | get group id =>
          rw [after, perform, get?_snd]
          exact hbefore.settled hnow (fun _ => rfl) fun _ => rfl
      | getAll group =>
          rw [after, perform, getAll_snd]
          exact hbefore.settled hnow (fun _ => rfl) fun _ => rfl
      | purge =>
          rw [after, perform, purge_snd hbefore.ascending]
          exact hbefore.look hnow fun _ => rfl

/-! ## Replies -/

theorem Agrees.textOf_settled (h' : Agrees expiration h s)
    (hnow : ∀ time ∈ h.map Prod.fst, time ≤ now) (group id : String) :
    (s.settled now group).textOf group id =
      Ascending.get? id (shown expiration now group h) := by
  have hlook : Agrees expiration ((now, .getAll group) :: h) (s.settled now group) :=
    h'.settled hnow (fun _ => rfl) fun _ => rfl
  exact hlook.textOf_eq (List.forall_mem_cons.2 ⟨Int.le_refl now, hnow⟩)
    (fun _ => lt_of_get?_settled) id

theorem Agrees.get?_eq (h' : Agrees expiration h s)
    (hnow : ∀ time ∈ h.map Prod.fst, time ≤ now) (group id : String) :
    (s.get? now group id).1 = Ascending.get? id (shown expiration now group h) := by
  have hlook : Agrees expiration ((now, .getAll group) :: h) (s.settled now group) :=
    h'.settled hnow (fun _ => rfl) fun _ => rfl
  have htext := h'.textOf_settled hnow group id
  rw [DurableStore.get?]
  split
  · rename_i habsent
    rw [← htext, (hlook.missing (Option.isNone_iff_eq_none.1 habsent)).1]
  · rw [← htext, textOf]
    simp only [SnapshotRow.place, Prod.mk.injEq]

theorem Agrees.getAll_eq (h' : Agrees expiration h s)
    (hnow : ∀ time ∈ h.map Prod.fst, time ≤ now) (group : String) :
    (s.getAll now group).1 = shown expiration now group h := by
  have hlook : Agrees expiration ((now, .getAll group) :: h) (s.settled now group) :=
    h'.settled hnow (fun _ => rfl) fun _ => rfl
  have htext := h'.textOf_settled hnow group
  rw [DurableStore.getAll]
  split
  · rename_i habsent
    refine Ascending.eq_of_get?_eq .nil (pairwise_entries _) fun id => ?_
    have hnone := (hlook.missing (Option.isNone_iff_eq_none.1 habsent)).1 id
    exact (hnone.symm.trans (htext id))
  · refine Ascending.eq_of_get?_eq (pairwise_foldl_put _ .nil) (pairwise_entries _) fun id => ?_
    exact (get?_entriesOf hlook.distinct group id).trans (htext id)

/-- The groups that are cleared away. -/
theorem Agrees.purge_eq (h' : Agrees expiration h s)
    (hnow : ∀ time ∈ h.map Prod.fst, time ≤ now) :
    ∃ gone : List String, gone.Nodup ∧
      (∀ group, group ∈ gone ↔
        IsStored expiration group h ∧ ¬ IsAlive expiration now (writes group h)) ∧
      (s.purge now).1 = gone.length := by
  refine ⟨(s.expiries.filter fun entry => entry.2 ≤ now).map Prod.fst, ?_, fun group => ?_, rfl⟩
  · refine List.pairwise_map.2 ((h'.ascending.filter _).imp fun hlt heq => ?_)
    exact String.lt_irrefl _ (heq ▸ hlt)
  · rw [mem_expired_iff h'.ascending, isExpired_iff, ← h'.isStored_iff, h'.isAlive_iff hnow]
    cases hget : Ascending.get? group s.expiries with
    | none => simp
    | some time => simp

theorem Timely.sublist {times more : List Int} (h : Timely expiration more)
    (hsublist : times.Sublist more) : Timely expiration times :=
  ⟨h.ordered.sublist hsublist, fun time htime => h.inRange time (hsublist.subset htime)⟩

section Replies

variable {h' : History}

theorem reply_get (hexpiration : expiration.millis < 2 ^ (63 : Nat))
    (htimely : Timely expiration (now :: h.map Prod.fst)) (group id : String) :
    reply expiration h now (.get group id) =
      .text (Ascending.get? id (shown expiration now group h)) := by
  obtain ⟨hnow, -⟩ := List.pairwise_cons.1 htimely.ordered
  have hafter := agrees_after hexpiration (htimely.sublist (List.sublist_cons_self _ _))
  exact congrArg Reply.text (hafter.get?_eq hnow group id)

theorem reply_getAll (hexpiration : expiration.millis < 2 ^ (63 : Nat))
    (htimely : Timely expiration (now :: h.map Prod.fst)) (group : String) :
    reply expiration h now (.getAll group) = .entries (shown expiration now group h) := by
  obtain ⟨hnow, -⟩ := List.pairwise_cons.1 htimely.ordered
  have hafter := agrees_after hexpiration (htimely.sublist (List.sublist_cons_self _ _))
  exact congrArg Reply.entries (hafter.getAll_eq hnow group)

/-- Reads see of a history only what its groups show. -/
theorem reply_eq_of_shown_eq (hexpiration : expiration.millis < 2 ^ (63 : Nat))
    (htimely : Timely expiration (now :: h.map Prod.fst))
    (htimely' : Timely expiration (now :: h'.map Prod.fst))
    (hshown : ∀ group, shown expiration now group h = shown expiration now group h')
    {operation : Operation} (hread : operation.IsRead) :
    reply expiration h now operation = reply expiration h' now operation := by
  cases operation with
  | get group id =>
      rw [reply_get hexpiration htimely, reply_get hexpiration htimely', hshown]
  | getAll group =>
      rw [reply_getAll hexpiration htimely, reply_getAll hexpiration htimely', hshown]
  | put _ _ _ => cases hread
  | purge => cases hread

end Replies

/-- How a store replies to what follows on a history. -/
structure Expires (expiration : Duration) (h : History) (now : Int) : Prop where
  get (group id : String) : reply expiration h now (.get group id) =
    .text (Ascending.get? id (shown expiration now group h))
  getAll (group : String) : reply expiration h now (.getAll group) =
    .entries (shown expiration now group h)
  /-- A group shows something as long as its time is not up after the latest write to it. -/
  alive (group : String) : reply expiration h now (.getAll group) ≠ .entries [] ↔
    ∃ latest ∈ (writes group h).head?, now < latest.time + expiration.millis
  /-- A group whose time is up starts empty. -/
  restarts (group id text : String) (later : Int) :
    ¬ IsAlive expiration now (writes group h) →
    Timely expiration (later :: now :: h.map Prod.fst) → later < now + expiration.millis →
    reply expiration ((now, .put group id text) :: h) later (.getAll group) =
      .entries [(id, text)]
  /-- It is as if it had never been written to. -/
  forgets (group : String) (new : History) (later : Int) (operation : Operation) :
    ¬ IsAlive expiration now (writes group h) → operation.IsRead →
    Timely expiration (later :: (new ++ h).map Prod.fst) →
    (∀ time ∈ later :: new.map Prod.fst, now ≤ time) →
    reply expiration (new ++ h) later operation =
      reply expiration (new ++ unwritten group h) later operation
  /-- The groups whose time is up and that are still stored are counted when they are
  cleared away. -/
  purges : ∃ gone : List String, gone.Nodup ∧
    (∀ group, group ∈ gone ↔
      IsStored expiration group h ∧ ¬ IsAlive expiration now (writes group h)) ∧
    reply expiration h now .purge = .count gone.length
  /-- No read notices that groups were cleared away. -/
  unnoticed (new : History) (later : Int) (operation : Operation) : operation.IsRead →
    Timely expiration (later :: (new ++ (now, .purge) :: h).map Prod.fst) →
    reply expiration (new ++ (now, .purge) :: h) later operation =
      reply expiration (new ++ h) later operation

/-- As long as clocks do not go back and times stay in range, groups expire as their writes
say, whatever else was done to the store and whenever it was cleared up. -/
theorem groups_expire (expiration : Duration) (h : History) (now : Int)
    (hexpiration : expiration.millis < 2 ^ (63 : Nat))
    (htimely : Timely expiration (now :: h.map Prod.fst)) : Expires expiration h now := by
  have hgetAll := reply_getAll hexpiration htimely
  refine ⟨reply_get hexpiration htimely, hgetAll, fun group => ?_, ?_, ?_, ?_, ?_⟩
  · rw [hgetAll, ne_eq, Reply.entries.injEq, shown_eq_nil_iff, not_not, IsAlive]
  · intro group id text later hdead hlater hlt
    have hput : Timely expiration
        (later :: ((now, .put group id text) :: h : History).map Prod.fst) := hlater
    rw [reply_getAll hexpiration hput, shown, writes_put, if_pos rfl, recent_of_lt hlt,
      recent_of_not_isAlive hdead]
    rfl
  · intro group new later operation hdead hread hlater hnew
    obtain ⟨hle, hnew⟩ := List.forall_mem_cons.1 hnew
    have hsublist : (new ++ unwritten group h).Sublist (new ++ h) :=
      (List.Sublist.refl new).append List.filter_sublist
    have hlater' := hlater.sublist ((hsublist.map Prod.fst).cons_cons later)
    refine reply_eq_of_shown_eq hexpiration hlater hlater' (fun other => ?_) hread
    rw [shown, shown, writes_append, writes_append]
    by_cases hother : other = group
    · subst hother
      have hwrites : ∀ write ∈ writes other new, now ≤ write.time := fun write hwrite =>
        hnew write.time (time_mem_of_mem_writes hwrite)
      rw [recent_append hdead hle hwrites, writes_unwritten_self, List.append_nil]
    · rw [writes_unwritten_of_ne hother]
  · obtain ⟨hnow, -⟩ := List.pairwise_cons.1 htimely.ordered
    have hafter := agrees_after hexpiration (htimely.sublist (List.sublist_cons_self _ _))
    obtain ⟨gone, hnodup, hmem, hcount⟩ := hafter.purge_eq hnow
    exact ⟨gone, hnodup, hmem, congrArg Reply.count hcount⟩
  · intro new later operation hread hlater
    have hsublist : (new ++ h).Sublist (new ++ (now, .purge) :: h) :=
      (List.Sublist.refl new).append (List.sublist_cons_self _ h)
    have hlater' := hlater.sublist ((hsublist.map Prod.fst).cons_cons later)
    refine reply_eq_of_shown_eq hexpiration hlater hlater' (fun group => ?_) hread
    rw [shown, shown, writes_append, writes_append, writes_cons_of_not_writesTo rfl]

section Run

/-- Two groups are written to, and one of them again when its time is up. -/
def relapse : History := [
  (300, .put "hosts_c1" "h2" "\x7b\x7d"), (0, .put "hosts_c2" "h9" "\x7b\x7d"),
  (0, .put "hosts_c1" "h1" "\x7b\x7d")]

theorem groups_expire_relapse :
    Expires ⟨150⟩ relapse 300 ∧
      reply ⟨150⟩ relapse 300 (.getAll "hosts_c1") = .entries [("h2", "\x7b\x7d")] ∧
      reply ⟨150⟩ relapse 300 (.getAll "hosts_c2") = .entries [] ∧
      reply ⟨150⟩ relapse 300 .purge = .count 1 := by
  refine ⟨groups_expire ⟨150⟩ relapse 300 (by decide) ⟨by decide, by decide⟩, ?_, ?_, ?_⟩
  all_goals decide +kernel

end Run

end DurableStore

end ClusterEvents
