import ClusterEvents.Proofs.Bulk.Batches
import ClusterEvents.Proofs.Consumer.Moves

/-!
# Somebody can always go on

The reader waits when a channel is full, the worker when it has an acknowledgment to pass
on and their channel is full, and at the end the reader waits for the worker. The commit
loop waits for nobody, so what is in the channel of acknowledgments goes away; then the
worker can go on, so what is in the other channel goes away as well, and the reader can go
on. Nothing of this depends on how much fits into a channel, as long as something does.

A move that is not the timer's leaves less to do (`load_move`), so the consumer comes to
its end whichever parties move in between (`exists_finish`).
-/

namespace ClusterEvents

theorem Channel.send_ne_full {α : Type} {c : Channel α} (hroom : 0 < c.capacity)
    (hvalues : c.values = []) (v : α) : c.send v ≠ .full := by
  intro hfull
  have hnone := (Channel.send_eq_full hfull).2
  rw [Channel.hasRoom, hvalues, decide_eq_false_iff_not] at hnone
  exact hnone hroom

namespace Bulk.Indexer

variable {κ : Type} {x y : Indexer κ}

theorem load_add {item : Item κ} (h : x.add item = .ok y) : y.load = x.load + 2 := by
  obtain ⟨z, hsubmit, rfl⟩ := add_eq_ok h
  obtain rfl := submit_eq_ok hsubmit
  simp only [load, List.length_append, List.length_singleton]
  omega

theorem load_close (h : x.close = .ok y) : y.load = x.load + 2 := by
  obtain rfl := submit_eq_ok h
  simp only [load, List.length_append, List.length_singleton]
  omega

theorem capacity_add {item : Item κ} (h : x.add item = .ok y) :
    y.commands.capacity = x.commands.capacity := by
  obtain ⟨z, hsubmit, rfl⟩ := add_eq_ok h
  obtain rfl := submit_eq_ok hsubmit
  rfl

theorem isToldToClose_of_close (h : x.close = .ok y) :
    y.IsToldToClose ∧ y.commands.capacity = x.commands.capacity := by
  obtain rfl := submit_eq_ok h
  exact ⟨.inl (by simp), rfl⟩

section Withdraw

variable [DecidableEq κ]

theorem capacity_withdraw (x : Indexer κ) (item : Item κ) :
    (x.withdraw item).commands.capacity = x.commands.capacity := by
  rw [withdraw]
  repeat' split
  all_goals rfl

theorem IsToldToClose.withdraw (h : x.IsToldToClose) (item : Item κ) :
    (x.withdraw item).IsToldToClose := by
  rw [Indexer.withdraw]
  split
  · exact h
  · split
    · exact h
    · refine h.imp_left fun hmem => ?_
      exact (List.mem_eraseP_of_neg (by simp [Command.item?])).2 hmem

end Withdraw

end Bulk.Indexer

namespace Phase

variable {ε : Type}

/-- What the reader is still to do. Each phase weighs more than the next one does together
with what the reader puts into a channel in between: four for a command, one for an
acknowledgment. -/
def load : Phase ε → Nat
  | .fetching => 7
  | .acknowledging _ => 9
  | .storing _ => 12
  | .ended _ => 6
  | .draining _ => 1
  | .stopping _ => 0

theorem load_phase_le (d : Disposition ε) (m : Message) : (d.phase m).load ≤ 12 := by
  cases d <;> simp [Disposition.phase, load]

end Phase

namespace Consumer

variable {σ ε : Type} {w : Wiring σ ε} {s t : Consumer σ ε}

/-- What the parties can rely on when they wait for each other. -/
structure Ready (s : Consumer σ ε) : Prop where
  inOrder : s.InOrder
  acks : 0 < s.acks.capacity
  commands : 0 < s.indexer.commands.capacity
  told : s.phase.isClosing = true → s.indexer.IsToldToClose

theorem ready_start (plan : Plan σ) : (plan.start : Consumer σ ε).Ready where
  inOrder := inOrder_start plan
  acks := Nat.lt_of_lt_of_le Nat.one_pos (Nat.le_max_right _ _)
  commands := Nat.lt_of_lt_of_le Nat.one_pos (Nat.le_max_right _ _)
  told := fun h => by cases h

/-- A number that every move but the timer's makes smaller. -/
def load (s : Consumer σ ε) : Nat :=
  6 * s.unfetched.length + s.phase.load + 2 * s.indexer.load + s.acks.values.length +
    (!s.acks.receiverGone).toNat

/-! ## What every act keeps -/

theorem Ready.read (h : s.Ready) (hnext : t.InOrder) (ht : Reads w s t) : t.Ready := by
  cases ht with
  | ends _ => exact ⟨hnext, h.acks, h.commands, fun hclosing => by cases hclosing⟩
  | @processes m rest hphase hunfetched =>
      obtain ⟨n, hhandle⟩ := handle_eq (w := w) (s := { s with unfetched := rest }) m
      rw [hhandle] at hnext ⊢
      exact ⟨hnext, h.acks, h.commands, fun hclosing => by simp at hclosing⟩
  | acknowledges _ hsend =>
      obtain ⟨-, rfl⟩ := Channel.send_eq_ok hsend
      exact ⟨hnext, h.acks, h.commands, fun hclosing => by cases hclosing⟩
  | stores _ hadd =>
      refine ⟨hnext, h.acks, ?_, fun hclosing => by cases hclosing⟩
      exact (Bulk.Indexer.capacity_add hadd).symm ▸ h.commands
  | closes _ hclose =>
      obtain ⟨htold, hcapacity⟩ := Bulk.Indexer.isToldToClose_of_close hclose
      exact ⟨hnext, h.acks, hcapacity.symm ▸ h.commands, fun _ => htold⟩
  | stops hphase =>
      exact ⟨hnext, h.acks, h.commands, fun _ => h.told (by rw [hphase]; rfl)⟩

theorem Ready.work (h : s.Ready) (hnext : t.InOrder) (ht : Works w s t) : t.Ready := by
  cases ht with
  | quietly hstep =>
      refine ⟨hnext, h.acks, ?_, fun hclosing => (h.told hclosing).step hstep⟩
      exact (Bulk.Indexer.capacity_step hstep).symm ▸ h.commands
  | acknowledges hstep hsend =>
      obtain ⟨-, rfl⟩ := Channel.send_eq_ok hsend
      refine ⟨hnext, h.acks, ?_, fun hclosing => (h.told hclosing).step hstep⟩
      exact (Bulk.Indexer.capacity_step hstep).symm ▸ h.commands

theorem Ready.tick (h : s.Ready) (hnext : t.InOrder) (ht : s.tick? w = some t) : t.Ready := by
  obtain ⟨-, rfl⟩ := eq_of_tick? ht
  refine ⟨hnext, h.acks, ?_, fun hclosing => (h.told hclosing).flush⟩
  rw [Bulk.Indexer.commands_flush]
  exact h.commands

theorem Ready.commit (h : s.Ready) (hnext : t.InOrder) (ht : Commits s t) : t.Ready := by
  cases ht with
  | takes _ hcapacity _ hphase hindexer _ =>
      refine ⟨hnext, hcapacity ▸ h.acks, hindexer ▸ h.commands, fun hclosing => ?_⟩
      rw [hphase] at hclosing
      exact hindexer ▸ h.told hclosing
  | stops _ ht =>
      subst ht
      exact ⟨hnext, h.acks, h.commands, h.told⟩

theorem Ready.report (h : s.Ready) (hnext : t.InOrder) {item : Bulk.Item Message}
    {verdict : Bulk.Verdict} (ht : s.report? item verdict = some t) : t.Ready := by
  have hcommands : 0 < (s.indexer.withdraw item).commands.capacity := by
    rw [Bulk.Indexer.capacity_withdraw]
    exact h.commands
  have htold : s.phase.isClosing = true → (s.indexer.withdraw item).IsToldToClose :=
    fun hclosing => (h.told hclosing).withdraw item
  simp only [report?] at ht
  split at ht
  · split at ht
    · obtain rfl := Option.some.inj ht
      exact ⟨hnext, h.acks, hcommands, htold⟩
    · split at ht
      · rename_i hsend
        obtain ⟨-, rfl⟩ := Channel.send_eq_ok hsend
        obtain rfl := Option.some.inj ht
        exact ⟨hnext, h.acks, hcommands, htold⟩
      · cases ht
      · obtain rfl := Option.some.inj ht
        exact ⟨hnext, h.acks, hcommands, htold⟩
  · cases ht

theorem Ready.act {act : Act} (h : s.Ready) (ht : s.act? w act = some t) : t.Ready := by
  have hnext := (effect_of_act h.inOrder ht).1
  cases act with
  | move move =>
      cases move with
      | read => exact h.read hnext (.of_read? h.inOrder ht)
      | work => exact h.work hnext (.of_work? h.inOrder ht)
      | tick => exact h.tick hnext ht
      | commit => exact h.commit hnext (.of_commit? ht)
  | report item verdict => exact h.report hnext ht
  | cancel =>
      obtain rfl := Option.some.inj ht
      exact ⟨hnext, h.acks, h.commands, h.told⟩

theorem ready_of_follow {plan : Plan σ} {acts : List Act} {told : List (Note σ)}
    (h : follow? w acts plan.start = some (told, s)) : s.Ready :=
  follow_induction (P := fun _ _ t => t.Ready) (ready_start plan) (fun _ ht hact => ht.act hact) h

/-! ## Why a party waits -/

/-- The reader waits for room in a channel or for the worker, or it is done. -/
theorem waits_of_read? (h : s.read? w = none) :
    (∃ ack, s.acks.send ack = .full) ∨
      (s.phase.isClosing = false ∧ s.indexer.commands.hasRoom = false) ∨
      (s.phase.isClosing = true ∧ s.indexer.stopped = false) ∨ s.isStopping = true := by
  rw [read?] at h
  split at h
  · cases h
  · rename_i ack hphase
    split at h
    · cases h
    · rename_i hsend
      exact .inl ⟨ack, hsend⟩
    · cases h
  · rename_i item hphase
    split at h
    · cases h
    · rename_i hadd
      exact .inr (.inl ⟨by rw [hphase]; rfl, (Bulk.Indexer.add_eq_full hadd).2⟩)
    · cases h
  · rename_i r hphase
    split at h
    · cases h
    · rename_i hclose
      exact .inr (.inl ⟨by rw [hphase]; rfl, (Bulk.Indexer.submit_eq_full hclose).2⟩)
    · cases h
  · rename_i r hphase
    split at h
    · cases h
    · rename_i hstopped
      exact .inr (.inr (.inl ⟨by rw [hphase]; rfl, Bool.eq_false_iff.2 hstopped⟩))
  · rename_i r hphase
    exact .inr (.inr (.inr (by rw [isStopping, hphase])))

/-- The worker waits for room in a channel or for commands, or it is done. -/
theorem waits_of_work? (h : s.work? w = none) :
    (∃ ack, s.acks.send ack = .full) ∨ s.indexer.settling = [] ∧
      (s.indexer.closing = true ∨ s.indexer.commands.values = []) := by
  rw [work?] at h
  split at h
  · rename_i hsettle
    have hstep : s.indexer.step? w.answers = none := by
      rw [Bulk.Indexer.step?, hsettle]
      exact Option.map_eq_none_iff.2 (Option.map_eq_none_iff.1 h)
    exact .inr (Bulk.Indexer.eq_of_step?_eq_none hstep)
  · cases h
  · rename_i item verdict indexer hsettle
    split at h
    · cases h
    · rename_i hsend
      exact .inl ⟨_, hsend⟩
    · cases h

/-- The commit loop waits for acknowledgments, or it is done. -/
theorem waits_of_commit? (h : s.commit? w = none) :
    s.acks.values = [] ∧ (s.isStopping = true → s.acks.receiverGone = true) := by
  rw [commit?] at h
  split at h
  · cases h
  all_goals
    rename_i hreceive
    split at h
    · cases h
    · rename_i hstays
      refine ⟨Channel.receive_eq_nil fun v d hvalue => ?_, fun hstopping => ?_⟩
      · cases hvalue.symm.trans hreceive
      · simpa [hstopping] using hstays

/-- Not everybody waits for somebody else. -/
theorem Ready.exists_move (h : s.Ready) (w : Wiring σ ε) (hfinished : s.isFinished = false) :
    ∃ move t, move ≠ .tick ∧ s.step? w move = some t := by
  cases hcommit : s.commit? w with
  | some t => exact ⟨.commit, t, by decide, hcommit⟩
  | none =>
  cases hwork : s.work? w with
  | some t => exact ⟨.work, t, by decide, hwork⟩
  | none =>
  cases hread : s.read? w with
  | some t => exact ⟨.read, t, by decide, hread⟩
  | none =>
      obtain ⟨hacks, hgone⟩ := waits_of_commit? hcommit
      have hroom : ∀ ack, s.acks.send ack ≠ .full := Channel.send_ne_full h.acks hacks
      obtain ⟨hsettling, hidle⟩ := (waits_of_work? hwork).resolve_left fun ⟨ack, hfull⟩ =>
        hroom ack hfull
      exfalso
      rcases waits_of_read? hread with
        ⟨ack, hfull⟩ | ⟨hopen, hfull⟩ | ⟨hclosing, hstays⟩ | hstopping
      · exact hroom ack hfull
      · -- There are commands, and the worker, which was not told to close, would take one.
        have htold := h.inOrder.not_told hopen
        have hvalues := hidle.resolve_left fun hclosing => htold (.inr hclosing)
        rw [Channel.hasRoom, hvalues, decide_eq_false_iff_not] at hfull
        exact hfull h.commands
      · -- The worker was told to close and has nothing to do, so it would have stopped.
        rw [Bulk.Indexer.stopped, hsettling, Bool.and_eq_false_iff] at hstays
        have hopen : s.indexer.closing = false := hstays.resolve_right (by simp)
        have hvalues := hidle.resolve_left (by simp [hopen])
        rcases h.told hclosing with hclose | hclosed
        · rw [hvalues] at hclose
          cases hclose
        · cases hopen.symm.trans hclosed
      · rw [isFinished, hstopping, hgone hstopping] at hfinished
        cases hfinished

/-! ## How much is left to do -/

theorem load_read (ht : Reads w s t) : t.load < s.load := by
  cases ht with
  | ends hphase =>
      simp only [load, hphase, Phase.load]
      omega
  | @processes m rest hphase hunfetched =>
      obtain ⟨n, hhandle⟩ := handle_eq (w := w) (s := { s with unfetched := rest }) m
      rw [hhandle]
      have hle := Phase.load_phase_le (w.process m s.state).disposition m
      simp only [load, hphase, hunfetched, List.length_cons, Phase.load] at hle ⊢
      omega
  | acknowledges hphase hsend =>
      obtain ⟨hopen, rfl⟩ := Channel.send_eq_ok hsend
      simp only [load, passedOn, hphase, Phase.load, List.length_append, List.length_singleton]
      omega
  | stores hphase hadd =>
      have hadded := Bulk.Indexer.load_add hadd
      simp only [load, passedOn, hphase, Phase.load, hadded]
      omega
  | closes hphase hclose =>
      have hclosed := Bulk.Indexer.load_close hclose
      simp only [load, hphase, Phase.load, hclosed]
      omega
  | stops hphase =>
      simp only [load, hphase, Phase.load]
      omega

theorem load_work (ht : Works w s t) : t.load < s.load := by
  cases ht with
  | quietly hstep =>
      have hless := Bulk.Indexer.load_step hstep
      simp only [load]
      omega
  | acknowledges hstep hsend =>
      have hless := Bulk.Indexer.load_step hstep
      obtain ⟨-, rfl⟩ := Channel.send_eq_ok hsend
      simp only [load, List.length_append, List.length_singleton]
      omega

theorem load_tick (ht : s.tick? w = some t) : t.load = s.load := by
  obtain ⟨hsettling, rfl⟩ := eq_of_tick? ht
  simp only [load, Bulk.Indexer.load_flush hsettling]

theorem load_commit (ht : Commits s t) : t.load < s.load := by
  cases ht with
  | takes hvalues _ hgone hphase hindexer hunfetched =>
      simp only [load, hvalues, hgone, hphase, hindexer, hunfetched, List.length_cons]
      omega
  | stops hopen ht =>
      subst ht
      simp only [load, Channel.dropReceiver, hopen, List.length_nil, Bool.not_true, Bool.not_false,
        Bool.toNat_true, Bool.toNat_false]
      omega

/-- A move makes the load smaller, and the timer leaves it as it is. -/
theorem load_move (h : s.InOrder) {move : Move} (ht : s.step? w move = some t) :
    t.load ≤ s.load ∧ (move ≠ .tick → t.load < s.load) := by
  have hle : t.load < s.load → t.load ≤ s.load ∧ (move ≠ .tick → t.load < s.load) :=
    fun hless => ⟨Nat.le_of_lt hless, fun _ => hless⟩
  cases move with
  | read => exact hle (load_read (.of_read? h ht))
  | work => exact hle (load_work (.of_work? h ht))
  | tick => exact ⟨Nat.le_of_eq (load_tick ht), fun hne => absurd rfl hne⟩
  | commit => exact hle (load_commit (.of_commit? ht))

theorem Ready.step (h : s.Ready) {move : Move} (ht : s.step? w move = some t) : t.Ready := by
  have hact : s.act? w (.move move) = some t := ht
  exact h.act hact

theorem Ready.countP_add_load_le (h : s.Ready) {moves : List Move}
    (ht : run? w moves s = some t) : moves.countP (· ≠ .tick) + t.load ≤ s.load := by
  induction moves generalizing s with
  | nil =>
      obtain rfl := Option.some.inj ht
      simp
  | cons move moves ih =>
      obtain ⟨u, hstep, hrun⟩ := Option.bind_eq_some_iff.1 ht
      obtain ⟨hle, hless⟩ := load_move h.inOrder hstep
      have hmoves := ih (h.step hstep) hrun
      by_cases htick : move = .tick
      · rw [List.countP_cons_of_neg (by simpa using htick)]
        exact Nat.le_trans hmoves hle
      · rw [List.countP_cons_of_pos (by simpa using htick)]
        have := hless htick
        omega

/-- The consumer can be brought to its end, whatever it has done so far. -/
theorem Ready.exists_finish (h : s.Ready) (w : Wiring σ ε) :
    ∃ moves t, .tick ∉ moves ∧ run? w moves s = some t ∧ t.isFinished = true := by
  induction hload : s.load using Nat.strongRecOn generalizing s with
  | _ n ih =>
      cases hfinished : s.isFinished with
      | true => exact ⟨[], s, by simp, rfl, hfinished⟩
      | false =>
          obtain ⟨move, t, htick, hstep⟩ := h.exists_move w hfinished
          have hless := (load_move h.inOrder hstep).2 htick
          obtain ⟨moves, u, hticks, hrun, hend⟩ :=
            ih t.load (hload ▸ hless) (h.step hstep) rfl
          refine ⟨move :: moves, u, ?_, ?_, hend⟩
          · simp [Ne.symm htick, hticks]
          · rw [run?, hstep, Option.bind_some, hrun]

/-- However large the channels are and whatever happens, as long as the consumer is not at
its end one of its parties can move without the timer. The parties cannot go on for ever,
and they can always be brought to the end. -/
theorem never_stuck (w : Wiring σ ε) (plan : Plan σ) (acts : List Act) (told : List (Note σ))
    (s : Consumer σ ε) (hfollow : follow? w acts plan.start = some (told, s)) :
    (s.isFinished = false → ∃ move t, move ≠ .tick ∧ s.step? w move = some t) ∧
    (∀ moves t, run? w moves s = some t → moves.countP (· ≠ .tick) ≤ s.load) ∧
    ∃ moves t, .tick ∉ moves ∧ run? w moves s = some t ∧ t.isFinished = true := by
  have hready := ready_of_follow hfollow
  refine ⟨hready.exists_move w, fun moves t hrun => ?_, hready.exists_finish w⟩
  exact Nat.le_of_add_right_le (hready.countP_add_load_le hrun)

section Run

/-- Four messages for channels that take one each. -/
def narrow : Plan Unit where
  log := [0, 1, 2, 3].map fun offset => { topic := "events", partition := 0, offset, value := [] }
  state := ()
  delivery := { ackBuffer := 1, bulkBuffer := 1 }

/-- The first message is done at once, and from the others documents are stored. -/
def kindly : Wiring Unit Unit where
  process m _ :=
    { disposition := if m.offset = 0 then .done else .queued ⟨"events", "", [], m⟩
      state := () }
  answers _ := .response 200
    (Bytes.ofString "\x7b\"items\":[\x7b\"index\":\x7b\"status\":201\x7d\x7d]\x7d")
  unacknowledged := ()
  unstored := ()

/-- The reader waits for the worker, and the worker for the commit loop. -/
def cornered : List Act :=
  [Move.read, .read, .read, .read, .work, .read, .read, .read].map .move

theorem never_stuck_cornered :
    ∃ told s, follow? kindly cornered narrow.start = some (told, s) ∧ s.isFinished = false ∧
      (s.step? kindly .read).isNone ∧ (s.step? kindly .work).isNone ∧
      (∃ move t, move ≠ .tick ∧ s.step? kindly move = some t) ∧
      ∃ moves t, .tick ∉ moves ∧ run? kindly moves s = some t ∧ t.isFinished = true := by
  have hwaits : ∃ run ∈ follow? kindly cornered narrow.start, run.2.isFinished = false ∧
      (run.2.step? kindly .read).isNone ∧ (run.2.step? kindly .work).isNone := by decide +kernel
  obtain ⟨⟨told, s⟩, hfollow, hfinished, hread, hwork⟩ := hwaits
  obtain ⟨hmove, -, hend⟩ := never_stuck kindly narrow cornered told s hfollow
  exact ⟨told, s, hfollow, hfinished, hread, hwork, hmove hfinished, hend⟩

end Run

end Consumer

end ClusterEvents
