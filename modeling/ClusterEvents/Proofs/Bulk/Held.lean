import ClusterEvents.Bulk.Indexer

/-!
# What an indexer holds

An item that was added and is not settled yet is in one of three places: it is being
settled, it is in the batch, or it is still in the channel. Read in this order the three
places hold the items in the order in which they were added. The worker moves items from
one place to the next, so what is held does not change until an item is settled, and the
item that is settled is the first one.

This takes that nothing is left in the channel when the worker goes: the command to close
stands behind all others. `InOrder` says so, and the steps of the worker (`Step`) keep it.
-/

namespace ClusterEvents

namespace Channel

variable {α : Type} {c d : Channel α} {v : α}

theorem send_eq_ok (h : c.send v = .ok d) :
    c.receiverGone = false ∧ d = { c with values := c.values ++ [v] } := by
  rw [send] at h
  split at h
  · cases h
  · rename_i hopen
    split at h
    · exact ⟨by simpa using hopen, (Sent.ok.inj h).symm⟩
    · cases h

theorem send_eq_closed (h : c.send v = .closed) : c.receiverGone = true := by
  rw [send] at h
  split at h
  · assumption
  · split at h <;> cases h

theorem send_eq_full (h : c.send v = .full) : c.receiverGone = false ∧ c.hasRoom = false := by
  rw [send] at h
  split at h
  · cases h
  · rename_i hopen
    split at h
    · cases h
    · rename_i hfull
      exact ⟨Bool.eq_false_iff.2 hopen, Bool.eq_false_iff.2 hfull⟩

theorem receive_eq_value (h : c.receive = .value v d) :
    c.values = v :: d.values ∧ d = { c with values := d.values } := by
  rw [receive] at h
  split at h
  · rename_i hvalues
    obtain ⟨rfl, rfl⟩ := Received.value.inj h
    exact ⟨hvalues, rfl⟩
  · split at h <;> cases h

theorem receive_eq_nil (h : ∀ v d, c.receive ≠ .value v d) : c.values = [] := by
  cases hvalues : c.values with
  | nil => rfl
  | cons v rest =>
      refine absurd ?_ (h v { c with values := rest })
      simp only [receive, hvalues]

theorem receive_ne_ended (h : c.sendersGone = false) : c.receive ≠ .ended := by
  rw [receive]
  split
  · intro hended
    cases hended
  · simp [h]

end Channel

namespace Bulk

/-- The item that a command adds. -/
def Command.item? {κ : Type} : Command κ → Option (Item κ)
  | .add item => some item
  | .close => none

namespace Indexer

variable {κ : Type} {x y : Indexer κ} {item : Item κ} {verdict : Verdict}

/-- The items that were added and are not settled yet, in the order in which they were
added. -/
def held (x : Indexer κ) : List (Item κ) :=
  x.settling.map Prod.fst ++ x.pending ++ x.commands.values.filterMap Command.item?

/-- The worker was told to close, or will be. -/
def IsToldToClose (x : Indexer κ) : Prop :=
  .close ∈ x.commands.values ∨ x.closing = true

/-- Nothing stands behind the command to close, and once the worker closes it has taken
everything. -/
structure InOrder (x : Indexer κ) : Prop where
  hasSenders : x.commands.sendersGone = false
  close_last : x.commands.values.Pairwise fun c _ => c ≠ .close
  of_closing : x.closing = true → x.commands.values = [] ∧ x.pending = []
  closing_of_gone : x.commands.receiverGone = true → x.closing = true

theorem inOrder_new (flushBytes channelBuffer : Nat) :
    (new flushBytes channelBuffer : Indexer κ).InOrder where
  hasSenders := rfl
  close_last := List.Pairwise.nil
  of_closing := fun h => by cases h
  closing_of_gone := fun h => by cases h

theorem not_isToldToClose_new (flushBytes channelBuffer : Nat) :
    ¬ (new flushBytes channelBuffer : Indexer κ).IsToldToClose := by
  rintro (h | h) <;> cases h

theorem InOrder.held_eq_nil (h : x.InOrder) (hstopped : x.stopped = true) : x.held = [] := by
  obtain ⟨hclosing, hsettling⟩ := Bool.and_eq_true_iff.1 hstopped
  obtain ⟨hcommands, hpending⟩ := h.of_closing hclosing
  rw [held, List.isEmpty_iff.1 hsettling, hpending, hcommands]
  rfl

/-! ## Senders -/

theorem submit_eq_ok {c : Command κ} (h : x.submit c = .ok y) :
    y = { x with commands := { x.commands with values := x.commands.values ++ [c] } } := by
  rw [submit] at h
  split at h
  · rename_i hsend
    rw [← Accepted.ok.inj h, (Channel.send_eq_ok hsend).2]
  · cases h
  · cases h

theorem open_of_submit {c : Command κ} (h : x.submit c = .ok y) :
    x.commands.receiverGone = false := by
  rw [submit] at h
  split at h
  · rename_i hsend
    exact (Channel.send_eq_ok hsend).1
  · cases h
  · cases h

theorem submit_eq_closed {c : Command κ} (h : x.submit c = .closed) :
    x.commands.receiverGone = true := by
  rw [submit] at h
  split at h
  · cases h
  · cases h
  · rename_i hsend
    exact Channel.send_eq_closed hsend

theorem submit_eq_full {c : Command κ} (h : x.submit c = .full) :
    x.commands.receiverGone = false ∧ x.commands.hasRoom = false := by
  rw [submit] at h
  split at h
  · cases h
  · rename_i hsend
    exact Channel.send_eq_full hsend
  · cases h

theorem add_eq_full (h : x.add item = .full) :
    x.commands.receiverGone = false ∧ x.commands.hasRoom = false := by
  rw [add] at h
  split at h
  · cases h
  · exact submit_eq_full h

theorem add_eq_ok (h : x.add item = .ok y) :
    ∃ z, x.submit (.add item) = .ok z ∧
      y = { z with stats := { z.stats with added := z.stats.added + 1 } } := by
  rw [add] at h
  split at h
  · rename_i z hsubmit
    exact ⟨z, hsubmit, (Accepted.ok.inj h).symm⟩
  · rename_i hsubmit
    exact absurd h (hsubmit y)

theorem add_eq_closed (h : x.add item = .closed) : x.commands.receiverGone = true := by
  rw [add] at h
  split at h
  · cases h
  · exact submit_eq_closed h

theorem pairwise_concat {c : Command κ} (h : x.InOrder) (htold : ¬ x.IsToldToClose) :
    (x.commands.values ++ [c]).Pairwise fun c _ => c ≠ .close := by
  refine List.pairwise_append.2 ⟨h.close_last, List.pairwise_singleton _ _, ?_⟩
  intro c' hc' _ _ heq
  exact htold (.inl (heq ▸ hc'))

theorem InOrder.submit {c : Command κ} (h : x.InOrder) (htold : ¬ x.IsToldToClose)
    (hy : x.submit c = .ok y) : y.InOrder := by
  obtain rfl := submit_eq_ok hy
  refine ⟨h.hasSenders, pairwise_concat h htold, fun hclosing => ?_, h.closing_of_gone⟩
  exact absurd (.inr hclosing) htold

theorem InOrder.add (h : x.InOrder) (htold : ¬ x.IsToldToClose) (hy : x.add item = .ok y) :
    y.InOrder ∧ y.held = x.held ++ [item] ∧ ¬ y.IsToldToClose := by
  obtain ⟨z, hz, rfl⟩ := add_eq_ok hy
  have hz' := h.submit htold hz
  obtain rfl := submit_eq_ok hz
  refine ⟨⟨hz'.hasSenders, hz'.close_last, hz'.of_closing, hz'.closing_of_gone⟩, ?_, ?_⟩
  · simp [held, Command.item?]
  · intro hy
    refine htold (hy.imp_left fun hmem => ?_)
    simpa using hmem

theorem InOrder.close (h : x.InOrder) (htold : ¬ x.IsToldToClose) (hy : x.close = .ok y) :
    y.InOrder ∧ y.held = x.held := by
  refine ⟨h.submit htold hy, ?_⟩
  obtain rfl := submit_eq_ok hy
  simp [held, Command.item?]

theorem InOrder.not_gone (h : x.InOrder) (htold : ¬ x.IsToldToClose) :
    x.commands.receiverGone ≠ true := fun hgone =>
  htold (.inr (h.closing_of_gone hgone))

/-! ## The worker -/

/-- What a step of the worker keeps. -/
structure Keeps (x y : Indexer κ) : Prop where
  inOrder : y.InOrder
  told : y.IsToldToClose → x.IsToldToClose

theorem map_fst_zip (batch : List (Item κ)) (answer : Answer) :
    (batch.zip (answer.verdicts batch.length)).map Prod.fst = batch :=
  List.map_fst_zip (Nat.le_of_eq (Answer.length_verdicts answer batch.length).symm)

/-- To send the batch moves it to what is being settled. -/
theorem held_flush (hidle : x.settling = []) (answers : Nat → Answer) :
    (x.flush answers).held = x.held := by
  rw [flush]
  split
  · rfl
  · simp only [held, map_fst_zip, hidle, List.map_nil, List.nil_append, List.append_nil]

theorem commands_flush (answers : Nat → Answer) : (x.flush answers).commands = x.commands := by
  rw [flush]
  split <;> rfl

theorem closing_flush (answers : Nat → Answer) : (x.flush answers).closing = x.closing := by
  rw [flush]
  split <;> rfl

theorem pending_flush (answers : Nat → Answer) : (x.flush answers).pending = [] := by
  rw [flush]
  split
  · rename_i hempty
    exact List.isEmpty_iff.1 hempty
  · rfl

theorem Keeps.flush (h : x.InOrder) (answers : Nat → Answer) : x.Keeps (x.flush answers) := by
  refine ⟨⟨?_, ?_, ?_, ?_⟩, ?_⟩
  · rw [commands_flush, h.hasSenders]
  · rw [commands_flush]
    exact h.close_last
  · rw [closing_flush, commands_flush, pending_flush]
    exact fun hclosing => ⟨(h.of_closing hclosing).1, rfl⟩
  · rw [commands_flush, closing_flush]
    exact h.closing_of_gone
  · rw [IsToldToClose, commands_flush, closing_flush]
    exact id

/-- A worker that leaves has nothing left to leave behind. -/
theorem Keeps.leave (h : x.InOrder) : x.Keeps x.leave ∧ x.leave.held = x.held := by
  rw [Indexer.leave]
  split
  · rename_i hstopped
    have hclosing : x.closing = true := (Bool.and_eq_true_iff.1 hstopped).1
    obtain ⟨hcommands, hpending⟩ := h.of_closing hclosing
    refine ⟨⟨⟨h.hasSenders, List.Pairwise.nil, fun _ => ⟨rfl, hpending⟩, fun _ => hclosing⟩,
      fun _ => .inr hclosing⟩, ?_⟩
    simp only [held, Channel.dropReceiver, hcommands]
  · exact ⟨⟨h, id⟩, rfl⟩

theorem isIdle_iff : x.isIdle = true ↔ x.closing = false ∧ x.settling = [] := by
  rw [isIdle, Bool.and_eq_true, Bool.not_eq_true', List.isEmpty_iff]

/-- An item has gone from the channel into the batch. -/
def taking (x : Indexer κ) (item : Item κ) (commands : Channel (Command κ)) : Indexer κ :=
  { x with commands, pending := x.pending ++ [item] }

/-- The worker is on its way out: the batch is sent, and no command is taken any more. -/
def closed (x : Indexer κ) (answers : Nat → Answer) : Indexer κ :=
  { x.flush answers with closing := true }

/-- What the worker does in one step. -/
inductive Step (answers : Nat → Answer) (x : Indexer κ) :
    Option (Item κ × Verdict) → Indexer κ → Prop
  | settles {next : Item κ × Verdict} {rest : List (Item κ × Verdict)}
      (hsettling : x.settling = next :: rest) :
      Step answers x (some next) { x with settling := rest }.leave
  | takes {item : Item κ} {commands : Channel (Command κ)} (hidle : x.isIdle = true)
      (hc : x.commands.receive = .value (.add item) commands)
      (hsmall : (body (x.pending ++ [item])).length < x.flushBytes) :
      Step answers x none (x.taking item commands)
  | fills {item : Item κ} {commands : Channel (Command κ)} (hidle : x.isIdle = true)
      (hc : x.commands.receive = .value (.add item) commands)
      (hlarge : x.flushBytes ≤ (body (x.pending ++ [item])).length) :
      Step answers x none ((x.taking item commands).flush answers)
  | closes {commands : Channel (Command κ)} (hidle : x.isIdle = true)
      (hc : x.commands.receive = .value .close commands) :
      Step answers x none (closed { x with commands } answers).leave

theorem Step.of_work? {answers : Nat → Answer} (h : x.commands.sendersGone = false)
    (hy : x.work? answers = some y) : Step answers x none y := by
  rw [work?] at hy
  split at hy
  · rename_i hidle
    split at hy
    · rename_i item commands hc
      obtain rfl := Option.some.inj hy
      rw [buffer]
      split
      · rename_i hlarge
        exact .fills hidle hc hlarge
      · rename_i hsmall
        exact .takes hidle hc (Nat.lt_of_not_le hsmall)
    · rename_i commands hc
      obtain rfl := Option.some.inj hy
      exact .closes hidle hc
    · cases hy
    · rename_i hc
      exact absurd hc (Channel.receive_ne_ended h)
  · cases hy

theorem Step.of_settle? (answers : Nat → Answer) {next : Item κ × Verdict}
    (hy : x.settle? = some (next, y)) : Step answers x (some next) y := by
  rw [settle?] at hy
  split at hy
  · cases hy
  · rename_i hsettling
    obtain ⟨rfl, rfl⟩ := Prod.mk.inj (Option.some.inj hy)
    exact .settles hsettling

theorem Step.of_step? {answers : Nat → Answer} {told : Option (Item κ × Verdict)}
    (h : x.commands.sendersGone = false) (hy : x.step? answers = some (told, y)) :
    Step answers x told y := by
  rw [step?] at hy
  split at hy
  · rename_i next z hsettle
    obtain ⟨rfl, rfl⟩ := Prod.mk.inj (Option.some.inj hy)
    exact .of_settle? answers hsettle
  · obtain ⟨z, hwork, heq⟩ := Option.map_eq_some_iff.1 hy
    obtain ⟨rfl, rfl⟩ := Prod.mk.inj heq
    exact .of_work? h hwork

/-- A command that is taken: an item goes into the batch. -/
theorem InOrder.take_add {commands : Channel (Command κ)} (h : x.InOrder)
    (hc : x.commands.receive = .value (.add item) commands) (hidle : x.isIdle = true) :
    x.Keeps (x.taking item commands) ∧ (x.taking item commands).held = x.held := by
  obtain ⟨hvalues, hrest⟩ := Channel.receive_eq_value hc
  have hlast := h.close_last
  rw [hvalues] at hlast
  refine ⟨⟨⟨?_, (List.pairwise_cons.1 hlast).2, ?_, ?_⟩, ?_⟩, ?_⟩
  · rw [hrest]
    exact h.hasSenders
  · intro hclosing
    have hidle' : x.closing = false := (isIdle_iff.1 hidle).1
    cases hidle'.symm.trans hclosing
  · show commands.receiverGone = true → x.closing = true
    rw [hrest]
    exact h.closing_of_gone
  · refine Or.imp_left fun hmem => ?_
    rw [hvalues]
    exact List.mem_cons_of_mem _ hmem
  · simp [held, taking, hvalues, Command.item?]

/-- The command to close is taken: nothing is left in the channel. -/
theorem InOrder.take_close {commands : Channel (Command κ)} (h : x.InOrder)
    (hc : x.commands.receive = .value .close commands) :
    x.Keeps { x with commands } ∧ held { x with commands } = x.held ∧
      commands.values = [] := by
  obtain ⟨hvalues, hrest⟩ := Channel.receive_eq_value hc
  have hlast := h.close_last
  rw [hvalues] at hlast
  have hnil : commands.values = [] := List.eq_nil_iff_forall_not_mem.2 fun c hmem =>
    (List.pairwise_cons.1 hlast).1 c hmem rfl
  refine ⟨⟨⟨?_, (List.pairwise_cons.1 hlast).2, ?_, ?_⟩, ?_⟩, ?_, hnil⟩
  · rw [hrest]
    exact h.hasSenders
  · exact fun hclosing => ⟨hnil, (h.of_closing hclosing).2⟩
  · rw [hrest]
    exact h.closing_of_gone
  · intro _
    exact .inl (hvalues ▸ List.mem_cons_self)
  · have hclose : (Command.close : Command κ).item? = none := rfl
    simp only [held, hvalues, List.filterMap_cons_none hclose]

theorem Keeps.trans {z : Indexer κ} (h : x.Keeps y) (h' : y.Keeps z) : x.Keeps z :=
  ⟨h'.inOrder, fun htold => h.told (h'.told htold)⟩

/-- The worker loses no item, and the one that it settles was added first. -/
theorem Keeps.step {answers : Nat → Answer} {told : Option (Item κ × Verdict)} (h : x.InOrder)
    (hstep : Step answers x told y) :
    x.Keeps y ∧ x.held = told.toList.map Prod.fst ++ y.held := by
  cases hstep with
  | @settles next rest hsettling =>
      have hrest : InOrder { x with settling := rest } :=
        ⟨h.hasSenders, h.close_last, h.of_closing, h.closing_of_gone⟩
      obtain ⟨hkeeps, hheld⟩ := Keeps.leave hrest
      refine ⟨⟨hkeeps.inOrder, hkeeps.told⟩, ?_⟩
      rw [hheld]
      simp [held, hsettling]
  | takes hidle hc _ =>
      obtain ⟨hkeeps, hheld⟩ := h.take_add hc hidle
      exact ⟨hkeeps, hheld.symm⟩
  | @fills item commands hidle hc _ =>
      obtain ⟨hkeeps, hheld⟩ := h.take_add hc hidle
      have hflush := held_flush (x := x.taking item commands) (isIdle_iff.1 hidle).2 answers
      exact ⟨hkeeps.trans (.flush hkeeps.inOrder answers), (hflush.trans hheld).symm⟩
  | @closes commands hidle hc =>
      obtain ⟨hkeeps, hheld, hnil⟩ := h.take_close hc
      have hflush := Keeps.flush hkeeps.inOrder answers
      have hclosed : (closed { x with commands } answers).InOrder := by
        refine ⟨hflush.inOrder.hasSenders, hflush.inOrder.close_last, fun _ => ?_, fun _ => rfl⟩
        exact ⟨(congrArg Channel.values (commands_flush answers)).trans hnil,
          pending_flush answers⟩
      obtain ⟨hleave, hsame⟩ := Keeps.leave hclosed
      refine ⟨⟨hleave.inOrder, fun _ => ?_⟩, ?_⟩
      · exact .inl ((Channel.receive_eq_value hc).1 ▸ List.mem_cons_self)
      · have hflushed := held_flush (x := { x with commands }) (isIdle_iff.1 hidle).2 answers
        exact (hsame.trans (hflushed.trans hheld)).symm

theorem Keeps.work (h : x.InOrder) {answers : Nat → Answer} (hy : x.work? answers = some y) :
    x.Keeps y ∧ y.held = x.held := by
  obtain ⟨hkeeps, hheld⟩ := Keeps.step h (.of_work? h.hasSenders hy)
  exact ⟨hkeeps, hheld.symm⟩

/-- The item that is settled is the one that was added first. -/
theorem Keeps.settle (h : x.InOrder) (hy : x.settle? = some ((item, verdict), y)) :
    x.Keeps y ∧ x.held = item :: y.held :=
  Keeps.step h (.of_settle? (fun _ => .lost "") hy)

/-- The timer has the batch sent. -/
theorem tick?_eq_some {answers : Nat → Answer} (hy : x.tick? answers = some y) :
    x.closing = false ∧ x.settling = [] ∧ y = x.flush answers := by
  rw [tick?] at hy
  split at hy
  · rename_i hidle
    obtain ⟨hopen, hsettling⟩ := isIdle_iff.1 hidle
    exact ⟨hopen, hsettling, (Option.some.inj hy).symm⟩
  · cases hy

theorem Keeps.tick (h : x.InOrder) {answers : Nat → Answer} (hy : x.tick? answers = some y) :
    x.Keeps y ∧ y.held = x.held := by
  obtain ⟨-, hsettling, rfl⟩ := tick?_eq_some hy
  exact ⟨.flush h answers, held_flush hsettling answers⟩

end Indexer

end Bulk

end ClusterEvents
